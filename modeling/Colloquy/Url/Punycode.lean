/-!
# Punycode

A label with characters outside of ASCII is written with letters, digits and hyphens.
The characters of ASCII come first; the others are inserted in increasing order, and each
insertion is a number that counts the places passed over since the one before.  Numbers
are written with digits of varying weight, the least first, and thresholds that follow
the sizes seen so far say which digit is the last.
-/

namespace Colloquy
namespace Url
namespace Punycode

def digit (n : Nat) : Char :=
  if n < 26 then Char.ofNat (0x61 + n) else Char.ofNat (0x30 + (n - 26))

def digitValue? (c : Char) : Option Nat :=
  if 'a' <= c && c <= 'z' then some (c.toNat - 0x61)
  else if 'A' <= c && c <= 'Z' then some (c.toNat - 0x41)
  else if c.isDigit then some (c.toNat - 0x30 + 26)
  else none

/-- The least digit at a place that is not the last of its number. -/
def threshold (bias place : Nat) : Nat :=
  max 1 (min 26 (place - bias))

theorem threshold_pos (bias place : Nat) : 1 <= threshold bias place := by
  unfold threshold
  omega

def scale (place delta : Nat) : Nat :=
  if 455 < delta then scale (place + 36) (delta / 35) else place + 36 * delta / (delta + 38)
termination_by delta
decreasing_by omega

/-- The bias behind a number, when there are `count` characters. -/
def adapt (first : Bool) (delta count : Nat) : Nat :=
  let delta := if first then delta / 700 else delta / 2
  scale 0 (delta + delta / count)

/-- The digits of a number from the given place on. -/
def digits (bias place n : Nat) : List Char :=
  let t := threshold bias place
  if n < t then [digit n]
  else digit (t + (n - t) % (36 - t)) :: digits bias (place + 36) ((n - t) / (36 - t))
termination_by n
decreasing_by
  have low := threshold_pos bias place
  calc (n - threshold bias place) / (36 - threshold bias place)
      <= n - threshold bias place := Nat.div_le_self _ _
    _ < n := by omega

/-!
# Writing
-/

/-- What is written so far, the places passed over since, the bias, and the number of
characters written. -/
structure Writer where
  written : List Char := []
  delta : Nat := 0
  bias : Nat := 72
  count : Nat

/-- Passes a character of the label while characters with number `n` are inserted. -/
def Writer.pass (basic n : Nat) (w : Writer) (c : Char) : Writer :=
  if c.toNat < n then { w with delta := w.delta + 1 }
  else if c.toNat == n then
    { written := w.written ++ digits w.bias 36 w.delta
      delta := 0
      bias := adapt (w.count == basic) w.delta (w.count + 1)
      count := w.count + 1 }
  else w

/-- Inserts the characters with each of the given numbers, of which `next` is the least
possible one. -/
def Writer.insert (label : List Char) (basic : Nat) : Nat -> List Nat -> Writer -> Writer
  | _, [], w => w
  | next, n :: more, w =>
      let w := { w with delta := w.delta + (n - next) * (w.count + 1) }
      let w := label.foldl (Writer.pass basic n) w
      Writer.insert label basic (n + 1) more { w with delta := w.delta + 1 }

def isBasic (c : Char) : Bool :=
  c.toNat < 0x80

def encode (label : List Char) : List Char :=
  let basic := label.filter isBasic
  let others := ((label.filter (!isBasic ·)).map Char.toNat).mergeSort.eraseDups
  let w := Writer.insert label basic.length 0x80 others { count := basic.length }
  (if basic.isEmpty then [] else basic ++ ['-']) ++ w.written

/-!
# Reading
-/

/-- Adds the number that starts at a place to `sum`. -/
def numberFrom (bias : Nat) : Nat -> Nat -> Nat -> List Char -> Option (Nat × List Char)
  | _, _, _, [] => none
  | place, weight, sum, c :: rest =>
      match digitValue? c with
      | none => none
      | some d =>
          let t := threshold bias place
          let sum := sum + d * weight
          if d < t then some (sum, rest)
          else numberFrom bias (place + 36) (weight * (36 - t)) sum rest

/-- Inserts the characters that the numbers tell. -/
def insertFrom : Nat -> List Char -> Nat -> Nat -> Nat -> List Char -> Option (List Char)
  | 0, _, _, _, _, _ => none
  | _ + 1, read, _, _, _, [] => some read
  | steps + 1, read, next, place, bias, c :: rest =>
      match numberFrom bias 36 1 place (c :: rest) with
      | none => none
      | some (sum, rest) =>
          let count := read.length + 1
          let n := next + sum / count
          if n.isValidChar then
            let here := sum % count
            insertFrom steps (read.take here ++ Char.ofNat n :: read.drop here) n (here + 1)
              (adapt (place == 0) (sum - place) count) rest
          else none

def decode? (cs : List Char) : Option (List Char) :=
  let parts := cs.splitOn '-'
  let basic := List.intercalate ['-'] parts.dropLast
  let rest := parts.getLast?.getD []
  if basic.all isBasic then insertFrom (rest.length + 1) basic 0x80 0 72 rest else none

end Punycode
end Url
end Colloquy
