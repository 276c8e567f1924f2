import Colloquy.Text.Hex

/-!
# Numeric addresses

An address of the fourth version is written as one to four numbers; the last fills the
bytes that the others leave.  An address of the sixth version is written as eight groups
of hexadecimal digits, of which two colons stand for a run of zero groups, and the last
two groups may be written as an address of the fourth version.
-/

namespace Colloquy
namespace Url

/-!
# The fourth version
-/

def valueIn (base : Nat) (digits : List Char) : Nat :=
  digits.foldl (fun n c => base * n + (Text.hexValue? c).getD 0) 0

/-- A number in base ten, eight or sixteen, as its first characters tell. -/
def number? (cs : List Char) : Option Nat :=
  match cs with
  | [] => none
  | '0' :: 'x' :: digits => inBase 16 (fun c => (Text.hexValue? c).isSome) digits
  | '0' :: 'X' :: digits => inBase 16 (fun c => (Text.hexValue? c).isSome) digits
  | '0' :: d :: digits => inBase 8 (fun c => '0' <= c && c <= '7') (d :: digits)
  | _ => inBase 10 Char.isDigit cs
where
  inBase (base : Nat) (isDigit : Char -> Bool) (digits : List Char) : Option Nat :=
    if digits.all isDigit then some (valueIn base digits) else none

/-- The labels of a name, less an empty last one. -/
def labels (cs : List Char) : List (List Char) :=
  let parts := cs.splitOn '.'
  if parts.getLast? == some [] then parts.dropLast else parts

/-- A name whose last label is a number can only be an address. -/
def endsInNumber (cs : List Char) : Bool :=
  match (labels cs).getLast? with
  | none => false
  | some last => (!last.isEmpty && last.all Char.isDigit) || (number? last).isSome

/-- The address of numbers of which the last fills the bytes that are left. -/
def joinNumbers? (numbers : List Nat) : Option Nat :=
  match numbers.getLast? with
  | none => none
  | some last =>
      let first := numbers.dropLast
      if 3 < first.length || first.any (255 < ·) || Nat.pow 256 (4 - first.length) <= last then none
      else some (first.foldl (fun n b => 256 * n + b) 0 * Nat.pow 256 (4 - first.length) + last)

def fourth? (cs : List Char) : Option Nat :=
  ((labels cs).mapM number?).bind joinNumbers?

/-- Four bytes, from the first one on. -/
def fourthText (address : Nat) : List Char :=
  let byte (n : Nat) := Nat.toDigits 10 (address / Nat.pow 256 n % 256)
  byte 3 ++ '.' :: byte 2 ++ '.' :: byte 1 ++ '.' :: byte 0

/-!
# The sixth version
-/

/-- One to four hexadecimal digits. -/
def group? (cs : List Char) : Option Nat :=
  if cs.isEmpty || 4 < cs.length then none else Text.hexNumber? cs

/-- A number up to 255 without a zero in front. -/
def byte? (cs : List Char) : Option Nat :=
  if cs.isEmpty || 3 < cs.length || !cs.all Char.isDigit ||
      (cs.head? == some '0' && 1 < cs.length) || 255 < valueIn 10 cs then none
  else some (valueIn 10 cs)

/-- The last two groups, written as four bytes. -/
def byteGroups? (cs : List Char) : Option (List Nat) :=
  match (cs.splitOn '.').mapM byte? with
  | some [a, b, c, d] => some [256 * a + b, 256 * c + d]
  | _ => none

/-- Groups between colons; the last may be written as bytes if `bytes` is set. -/
def groups? (bytes : Bool) : List (List Char) -> Option (List Nat)
  | [] => some []
  | [last] =>
      if bytes && last.contains '.' then byteGroups? last else (group? last).map ([·])
  | g :: rest => do
      let first <- group? g
      let more <- groups? bytes rest
      some (first :: more)

/-- Groups on one side of two colons, of which there may be none. -/
def side? (bytes : Bool) (cs : List Char) : Option (List Nat) :=
  if cs.isEmpty then some [] else groups? bytes (cs.splitOn ':')

/-- The text before two colons and the text behind them. -/
def cutColons : List Char -> Option (List Char × List Char)
  | [] => none
  | ':' :: ':' :: rest => some ([], rest)
  | c :: rest => (cutColons rest).map fun r => (c :: r.1, r.2)

/-- The eight groups of an address. -/
def sixth? (cs : List Char) : Option (List Nat) :=
  match cutColons cs with
  | none => (groups? true (cs.splitOn ':')).filter fun groups => groups.length == 8
  | some (left, right) => do
      let before <- side? false left
      let behind <- side? true right
      let given := before.length + behind.length
      if 7 < given then none
      else some (before ++ List.replicate (8 - given) 0 ++ behind)

def lowerHex (n : Nat) : List Char :=
  Nat.toDigits 16 n

/-- The number of zeros at the start. -/
def zeroRun (groups : List Nat) : Nat :=
  (groups.takeWhile (· == 0)).length

/-- The start and the length of the first of the longest runs of zeros. -/
def longestZeroRun (index : Nat) : List Nat -> Nat × Nat
  | [] => (index, 0)
  | g :: rest =>
      let later := longestZeroRun (index + 1) rest
      let here := zeroRun (g :: rest)
      if later.2 <= here then (index, here) else later

def joinGroups (groups : List Nat) : List Char :=
  List.intercalate [':'] (groups.map lowerHex)

/-- The groups, with two colons for the longest run of at least two zeros. -/
def sixthText (groups : List Nat) : List Char :=
  let (start, length) := longestZeroRun 0 groups
  if length < 2 then joinGroups groups
  else joinGroups (groups.take start) ++ ':' :: ':' :: joinGroups (groups.drop (start + length))

end Url
end Colloquy
