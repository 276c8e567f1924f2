/-!
# Bytes of a text

Offsets and lengths of texts are counted in bytes of their UTF-8 form.  A cut is
made only between two characters: `splitBytes? n` answers nothing when the text
is shorter than `n` bytes or when byte `n` lies inside a character.  Bytes that
are no UTF-8 are read with one replacement character for each longest piece that
could not be the start of a character.
-/

namespace Colloquy
namespace Text

def byteLength (cs : List Char) : Nat :=
  cs.foldr (fun c n => c.utf8Size + n) 0

/-- The first `n` bytes and the rest, if byte `n` is a character boundary. -/
def splitBytes? : Nat -> List Char -> Option (List Char × List Char)
  | 0, cs => some ([], cs)
  | _ + 1, [] => none
  | n + 1, c :: rest =>
      if c.utf8Size <= n + 1 then
        match splitBytes? (n + 1 - c.utf8Size) rest with
        | some (front, back) => some (c :: front, back)
        | none => none
      else none
termination_by _ cs => cs.length

/-- Whether byte `n` begins a character or ends the text. -/
def isBoundary (cs : List Char) (n : Nat) : Bool :=
  (splitBytes? n cs).isSome

/-- The boundary that a search backwards from byte `n` meets first, if it meets one before it
is past the start. -/
def boundaryBefore? (cs : List Char) : Nat -> Option Nat
  | 0 => if isBoundary cs 0 then some 0 else none
  | n + 1 => if isBoundary cs (n + 1) then some (n + 1) else boundaryBefore? cs n

/-- The longest run of whole characters from the start with at most `n` bytes. -/
def takeBytes : Nat -> List Char -> List Char
  | _, [] => []
  | n, c :: rest =>
      if c.utf8Size <= n then c :: takeBytes (n - c.utf8Size) rest else []

/-- The text from byte `n` on, if byte `n` is a character boundary. -/
def dropBytes? (n : Nat) (cs : List Char) : Option (List Char) :=
  (splitBytes? n cs).map Prod.snd

/-- The bytes `[start, stop)`, if both ends are character boundaries. -/
def slice? (cs : List Char) (start stop : Nat) : Option (List Char) :=
  (dropBytes? start cs).bind fun tail =>
    (splitBytes? (stop - start) tail).map Prod.fst

/-- The start of a text up to the boundary at byte `n` or before it. -/
def startBefore? (cs : List Char) (n : Nat) : Option (List Char) :=
  (boundaryBefore? cs n).bind (slice? cs 0)

theorem isBoundary_zero (cs : List Char) : isBoundary cs 0 = true := by
  simp [isBoundary, splitBytes?]

theorem slice?_zero (cs : List Char) (n : Nat) :
    slice? cs 0 n = (splitBytes? n cs).map Prod.fst := by
  simp [slice?, dropBytes?, splitBytes?]

/-- The search ends, at the start of the text if it meets no other boundary. -/
theorem exists_boundaryBefore? (cs : List Char) (n : Nat) :
    exists m, boundaryBefore? cs n = some m ∧ isBoundary cs m = true := by
  induction n with
  | zero => exact ⟨0, if_pos (isBoundary_zero cs), isBoundary_zero cs⟩
  | succ n ih =>
      by_cases h : isBoundary cs (n + 1) = true
      · exact ⟨n + 1, if_pos h, h⟩
      · rw [boundaryBefore?, if_neg h]
        exact ih

theorem startBefore?_isSome (cs : List Char) (n : Nat) : (startBefore? cs n).isSome = true := by
  rcases exists_boundaryBefore? cs n with ⟨m, hm, hboundary⟩
  rw [startBefore?, hm, Option.bind_some, slice?_zero, Option.isSome_map]
  exact hboundary

/-!
# Reading bytes
-/

/-- What the byte after a leading byte may be, and how many more follow. -/
structure Lead where
  low : UInt8
  high : UInt8
  more : Nat
  bits : Nat

/-- The shape of the character that a leading byte opens.  The range of the
second byte keeps out overlong forms, surrogates and numbers above 10FFFF. -/
def Lead.ofByte? (b : UInt8) : Option Lead :=
  let n := b.toNat
  if 0xC2 <= n && n <= 0xDF then some ⟨0x80, 0xBF, 0, n - 0xC0⟩
  else if n == 0xE0 then some ⟨0xA0, 0xBF, 1, 0⟩
  else if (0xE1 <= n && n <= 0xEC) || n == 0xEE || n == 0xEF then
    some ⟨0x80, 0xBF, 1, n - 0xE0⟩
  else if n == 0xED then some ⟨0x80, 0x9F, 1, 0xD⟩
  else if n == 0xF0 then some ⟨0x90, 0xBF, 2, 0⟩
  else if 0xF1 <= n && n <= 0xF3 then some ⟨0x80, 0xBF, 2, n - 0xF0⟩
  else if n == 0xF4 then some ⟨0x80, 0x8F, 2, 4⟩
  else none

def isContinuation (b : UInt8) : Bool :=
  0x80 <= b && b <= 0xBF

/-- Takes `more` continuation bytes, adding their bits to `bits`.  Answers the
number when all are there, and the bytes that were not taken. -/
def takeContinuation : Nat -> Nat -> List UInt8 -> Option Nat × List UInt8
  | 0, bits, rest => (some bits, rest)
  | _ + 1, _, [] => (none, [])
  | more + 1, bits, b :: rest =>
      if isContinuation b then takeContinuation more (bits * 64 + (b.toNat - 0x80)) rest
      else (none, b :: rest)

theorem takeContinuation_length (more bits : Nat) (bytes : List UInt8) :
    (takeContinuation more bits bytes).2.length <= bytes.length := by
  induction more generalizing bits bytes with
  | zero => simp [takeContinuation]
  | succ more ih =>
      cases bytes with
      | nil => simp [takeContinuation]
      | cons b rest =>
          unfold takeContinuation
          split
          · exact Nat.le_succ_of_le (ih _ rest)
          · exact Nat.le_refl _

/-- One character from a non-empty run of bytes, none for a broken one, with the
bytes after it. -/
def readChar (b : UInt8) (rest : List UInt8) : Option Char × List UInt8 :=
  if b < 0x80 then (some (Char.ofNat b.toNat), rest)
  else
    match Lead.ofByte? b, rest with
    | none, _ => (none, rest)
    | some _, [] => (none, [])
    | some lead, second :: tail =>
        if lead.low <= second && second <= lead.high then
          let read := takeContinuation lead.more (lead.bits * 64 + (second.toNat - 0x80)) tail
          (read.1.map Char.ofNat, read.2)
        else (none, second :: tail)

theorem readChar_length (b : UInt8) (rest : List UInt8) :
    (readChar b rest).2.length <= rest.length := by
  unfold readChar
  split
  · exact Nat.le_refl _
  · split
    · exact Nat.le_refl _
    · exact Nat.le_refl _
    · split
      · exact Nat.le_succ_of_le (takeContinuation_length _ _ _)
      · exact Nat.le_refl _

def replacement : Char := '\uFFFD'

/-- The text of arbitrary bytes; each longest broken piece reads as one
replacement character. -/
def decodeLossy : List UInt8 -> List Char
  | [] => []
  | b :: rest => (readChar b rest).1.getD replacement :: decodeLossy (readChar b rest).2
termination_by bytes => bytes.length
decreasing_by exact Nat.lt_succ_of_le (readChar_length b rest)

/-- The text of bytes that are UTF-8 throughout. -/
def decode? : List UInt8 -> Option (List Char)
  | [] => some []
  | b :: rest =>
      match (readChar b rest).1 with
      | none => none
      | some c => (decode? (readChar b rest).2).map (c :: ·)
termination_by bytes => bytes.length
decreasing_by exact Nat.lt_succ_of_le (readChar_length b rest)

def encode (cs : List Char) : List UInt8 :=
  cs.flatMap String.utf8EncodeChar

end Text
end Colloquy
