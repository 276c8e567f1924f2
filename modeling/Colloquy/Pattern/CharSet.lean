import Colloquy.Unicode.Category
import Colloquy.Unicode.Folding
import Colloquy.Unicode.Property
import Colloquy.Unicode.Script

/-!
# Sets of characters

A set of characters is a list of ranges.  The operations work on ranges in
increasing order with a gap between neighbours, which is the form that `normal`
gives to any list.
-/

namespace Colloquy
namespace Pattern

abbrev CharSet := Unicode.Ranges

namespace CharSet

def lastChar : Nat := 0x10FFFF

/-- Puts together ranges that overlap or are adjacent, in a list sorted by first
numbers; `range` goes before the list. -/
def joinFrom (range : Nat × Nat) : CharSet -> CharSet
  | [] => [range]
  | (first, last) :: rest =>
      if first <= range.2 + 1 then joinFrom (range.1, max range.2 last) rest
      else range :: joinFrom (first, last) rest

def normal (s : CharSet) : CharSet :=
  match s.mergeSort fun a b => a.1 <= b.1 with
  | [] => []
  | range :: rest => joinFrom range rest

def union (a b : CharSet) : CharSet :=
  normal (a ++ b)

/-- What lies between the ranges of a set in normal form, from `first` on. -/
def gapsFrom (first : Nat) : CharSet -> CharSet
  | [] => if first <= lastChar then [(first, lastChar)] else []
  | (low, high) :: rest =>
      if first < low then (first, low - 1) :: gapsFrom (high + 1) rest
      else gapsFrom (high + 1) rest

def complement (s : CharSet) : CharSet :=
  gapsFrom 0 (normal s)

def intersection (a b : CharSet) : CharSet :=
  complement (union (complement a) (complement b))

def difference (a b : CharSet) : CharSet :=
  intersection a (complement b)

def symmetricDifference (a b : CharSet) : CharSet :=
  union (difference a b) (difference b a)

def single (c : Char) : CharSet :=
  [(c.toNat, c.toNat)]

def contains (s : CharSet) (n : Nat) : Bool :=
  s.any fun r => r.1 <= n && n <= r.2

def isAscii (s : CharSet) : Bool :=
  s.all fun r => r.2 < 0x80

/-- The set with all characters that differ from one of its own in case only. -/
def foldCase (s : CharSet) : CharSet :=
  let sorted := (normal s).toArray
  let added := (Unicode.foldings.filter fun orbit => orbit.any (Unicode.inRanges sorted)).flatten
  if added.isEmpty then s else union s (added.map fun n => (n, n))

def shifted (s : CharSet) (low high : Nat) (shift : Nat -> Nat) : CharSet :=
  (intersection s [(low, high)]).map fun r => (shift r.1, shift r.2)

/-- As `foldCase`, for the letters A to Z only. -/
def foldAsciiCase (s : CharSet) : CharSet :=
  union s (shifted s 0x41 0x5A (· + 0x20) ++ shifted s 0x61 0x7A (· - 0x20))

/-!
# Named sets
-/

def ofChars (cs : List Char) : CharSet :=
  normal (cs.map fun c => (c.toNat, c.toNat))

def ofCategories (codes : List String) : CharSet :=
  normal (Unicode.categories.ranges fun c => codes.contains c.code)

def property (name : String) : CharSet :=
  (Unicode.property? name).getD []

def digit : CharSet :=
  ofCategories ["Nd"]

def space : CharSet :=
  property "whitespace"

def word : CharSet :=
  normal (property "alphabetic" ++ ofCategories ["Mn", "Mc", "Me", "Nd", "Pc"] ++
    property "joincontrol")

def asciiDigit : CharSet := [(0x30, 0x39)]

def asciiSpace : CharSet := [(0x9, 0xD), (0x20, 0x20)]

def asciiWord : CharSet := [(0x30, 0x39), (0x41, 0x5A), (0x5F, 0x5F), (0x61, 0x7A)]

/-- The sets that may be named in a bracketed set, between colons. -/
def asciiClass? : String -> Option CharSet
  | "alnum" => some [(0x30, 0x39), (0x41, 0x5A), (0x61, 0x7A)]
  | "alpha" => some [(0x41, 0x5A), (0x61, 0x7A)]
  | "ascii" => some [(0, 0x7F)]
  | "blank" => some [(0x9, 0x9), (0x20, 0x20)]
  | "cntrl" => some [(0, 0x1F), (0x7F, 0x7F)]
  | "digit" => some asciiDigit
  | "graph" => some [(0x21, 0x7E)]
  | "lower" => some [(0x61, 0x7A)]
  | "print" => some [(0x20, 0x7E)]
  | "punct" => some [(0x21, 0x2F), (0x3A, 0x40), (0x5B, 0x60), (0x7B, 0x7E)]
  | "space" => some asciiSpace
  | "upper" => some [(0x41, 0x5A)]
  | "word" => some asciiWord
  | "xdigit" => some [(0x30, 0x39), (0x41, 0x46), (0x61, 0x66)]
  | _ => none

/-- A name without a leading `is`. -/
def withoutIs : List Char -> Option (List Char)
  | i :: s :: rest => if i.toLower == 'i' && s.toLower == 's' then some rest else none
  | _ => none

/-- The characters of a name that count, in lower case. -/
def looseChars (name : List Char) : List Char :=
  (name.filter fun c => !(c == ' ' || c == '_' || c == '-') && c.toNat < 0x80).map Char.toLower

/-- A name as names are compared: in lower case, without blanks, lines and a leading
`is`.  The name `isc` keeps it. -/
def looseName (name : String) : String :=
  match withoutIs name.toList with
  | some rest =>
      let loose := looseChars rest
      if loose == ['c'] then "isc" else String.ofList loose
  | none => String.ofList (looseChars name.toList)

def category? (name : String) : Option CharSet :=
  if name == "any" then some [(0, lastChar)]
  else if name == "ascii" then some [(0, 0x7F)]
  else if name == "assigned" then some (complement (ofCategories ["Cn"]))
  else (Unicode.Category.names.find? fun n => n.1 == name).map fun n => ofCategories n.2

def script? (name : String) : Option CharSet :=
  (Unicode.scriptCode? name).map fun code => Unicode.scripts.ranges fun s => s == code

/-- The set with a name of a property, a category or a script. -/
def named? (name : String) : Option CharSet :=
  let key := looseName name
  let byProperty :=
    if key == "cf" || key == "sc" || key == "lc" then none else Unicode.property? key
  (byProperty.orElse fun _ => category? key).orElse fun _ => script? key

/-- The set of a property with a value. -/
def valued? (name value : String) : Option CharSet :=
  match looseName name with
  | "gc" => category? (looseName value)
  | "generalcategory" => category? (looseName value)
  | "sc" => script? (looseName value)
  | "script" => script? (looseName value)
  | "scx" => script? (looseName value)
  | "scriptextensions" => script? (looseName value)
  | _ => none

end CharSet
end Pattern
end Colloquy
