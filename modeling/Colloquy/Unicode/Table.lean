/-!
# Tables of character properties

A property of all characters is a list of runs: the first number of each run and the
value from there on.  A set of characters is a list of ranges.  Both are written as
words with hexadecimal numbers, in increasing order.
-/

namespace Colloquy
namespace Unicode

def hexDigit (c : Char) : Nat :=
  if c.isDigit then c.toNat - 0x30 else c.toNat - 0x61 + 10

def hexNumber (cs : List Char) : Nat :=
  cs.foldl (fun n c => 16 * n + hexDigit c) 0

def words (s : String) : List (List Char) :=
  (s.toList.splitOnP fun c => c == ' ' || c == '\n').filter fun w => !w.isEmpty

/-- The part of a word before `mark` and the part behind it. -/
def cut (mark : Char) (w : List Char) : List Char × List Char :=
  (w.takeWhile (· != mark), (w.dropWhile (· != mark)).drop 1)

/-- The number of entries at the start of `a` whose first number is at most `n`, for
a sorted `a` of which those before `low` are and those from `high` on are not. -/
def countUpTo (a : Array (Nat × α)) (n low high : Nat) : Nat :=
  if _h : low < high then
    let middle := (low + high) / 2
    match a[middle]? with
    | some (first, _) =>
        if first <= n then countUpTo a n (middle + 1) high else countUpTo a n low middle
    | none => low
  else low
termination_by high - low

/-- The runs of a property, in increasing order. -/
structure Table (α : Type) where
  runs : Array (Nat × α)

namespace Table

/-- Reads words such as `1f.Name`. -/
def ofText (value : String -> α) (text : String) : Table α where
  runs := ((words text).map fun w =>
    let (number, name) := cut '.' w
    (hexNumber number, value (String.ofList name))).toArray

def get? (t : Table α) (n : Nat) : Option α :=
  match countUpTo t.runs n 0 t.runs.size with
  | 0 => none
  | k + 1 => t.runs[k]?.map Prod.snd

end Table

/-- A set of numbers, as ranges with their ends. -/
abbrev Ranges := List (Nat × Nat)

/-- Reads words such as `41-5a` and `5f`. -/
def rangesOfText (text : String) : Ranges :=
  (words text).map fun w =>
    match cut '-' w with
    | (first, []) => (hexNumber first, hexNumber first)
    | (first, last) => (hexNumber first, hexNumber last)

/-- Whether a sorted array of ranges that do not overlap holds `n`. -/
def inRanges (ranges : Array (Nat × Nat)) (n : Nat) : Bool :=
  match countUpTo ranges n 0 ranges.size with
  | 0 => false
  | k + 1 =>
      match ranges[k]? with
      | some (_, last) => n <= last
      | none => false

/-- The ranges of a property that satisfy `p`, up to the last character. -/
def Table.ranges (t : Table α) (p : α -> Bool) : Ranges :=
  go t.runs.toList
where
  go : List (Nat × α) -> Ranges
    | [] => []
    | [(first, v)] => if p v then [(first, 0x10FFFF)] else []
    | (first, v) :: (next, w) :: rest =>
        if p v then (first, next - 1) :: go ((next, w) :: rest) else go ((next, w) :: rest)

end Unicode
end Colloquy
