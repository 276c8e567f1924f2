import Colloquy.Unicode.Sentence
import Colloquy.Unicode.Word

/-!
# Sections of a text

A text has sections of several levels: characters, grapheme clusters, words, sentences,
and the pieces between line breaks and these breaks themselves.  The more line ends a
break has, the higher is its level.  Places are counted in characters.
-/

namespace Colloquy
namespace Chunk

/-- The stretch of a text from one place up to another. -/
structure Span where
  start : Nat
  stop : Nat
deriving DecidableEq, Repr

namespace Span

def length (s : Span) : Nat :=
  s.stop - s.start

/-- The characters of the stretch. -/
def of (s : Span) (text : List Char) : List Char :=
  (text.drop s.start).take s.length

end Span

/-!
# Line breaks
-/

structure LineBreak where
  level : Nat
  span : Span
deriving DecidableEq, Repr

/-- The number of pairs of a carriage return and a line feed at the start. -/
def returnPairs : List Char -> Nat
  | '\r' :: '\n' :: rest => returnPairs rest + 1
  | _ => 0

/-- The level and the length of a break at the start of a text: pairs of a carriage
return and a line feed, or else only the one or only the other. -/
def breakAt? (cs : List Char) : Option (Nat × Nat) :=
  let pairs := returnPairs cs
  let returns := (cs.takeWhile (· == '\r')).length
  let feeds := (cs.takeWhile (· == '\n')).length
  if 0 < pairs then some (pairs, 2 * pairs)
  else if 0 < returns then some (returns, returns)
  else if 0 < feeds then some (feeds, feeds)
  else none

/-- The breaks of a text that starts at `place`, of which the first `skip` characters
belong to a break already found. -/
def breaksFrom (place skip : Nat) : List Char -> List LineBreak
  | [] => []
  | c :: rest =>
      if 0 < skip then breaksFrom (place + 1) (skip - 1) rest
      else
        match breakAt? (c :: rest) with
        | some (level, length) =>
            ⟨level, ⟨place, place + length⟩⟩ :: breaksFrom (place + 1) (length - 1) rest
        | none => breaksFrom (place + 1) 0 rest

def lineBreaks (text : List Char) : List LineBreak :=
  breaksFrom 0 0 text

/-!
# Sections
-/

/-- The stretch, unless it is empty. -/
def stretch (start stop : Nat) : List Span :=
  if start < stop then [⟨start, stop⟩] else []

/-- The pieces between breaks and the breaks, from `start` to `stop`. -/
def pieces (start stop : Nat) : List LineBreak -> List Span
  | [] => stretch start stop
  | b :: rest => stretch start b.span.start ++ b.span :: pieces b.span.stop stop rest

/-- Consecutive stretches of the given lengths. -/
def spansOf (start : Nat) : List Nat -> List Span
  | [] => []
  | length :: rest => ⟨start, start + length⟩ :: spansOf (start + length) rest

inductive Level where
  | character
  | grapheme
  | word
  | sentence
  | lines (ends : Nat)
deriving DecidableEq, Repr

/-- The rest of a text from a place on, with the line breaks of the whole text that
begin there or later. -/
structure Remaining where
  place : Nat
  text : List Char
  breaks : List LineBreak

namespace Remaining

def stop (r : Remaining) : Nat :=
  r.place + r.text.length

/-- The sections of a level. -/
def sections (r : Remaining) : Level -> List Span
  | .character => spansOf r.place (r.text.map fun _ => 1)
  | .grapheme => spansOf r.place (Unicode.Grapheme.segmentation.lengths r.text)
  | .word => spansOf r.place (Unicode.Word.segmentation.lengths r.text)
  | .sentence => spansOf r.place (Unicode.Sentence.segmentation.lengths r.text)
  | .lines ends => pieces r.place r.stop (r.breaks.filter fun b => ends <= b.level)

/-- The length of the first section of a level. -/
def firstLength (r : Remaining) : Level -> Nat
  | .character => 1
  | .grapheme => Unicode.Grapheme.segmentation.firstLength r.text
  | .word => Unicode.Word.segmentation.firstLength r.text
  | .sentence => Unicode.Sentence.segmentation.firstLength r.text
  | .lines ends =>
      match (r.sections (.lines ends)).head? with
      | some s => s.length
      | none => 0

/-- The levels of the line breaks, from low to high. -/
def lineLevels (r : Remaining) : List Level :=
  let ends := (r.breaks.map LineBreak.level).mergeSort
  (ends.eraseReps).map Level.lines

end Remaining
end Chunk
end Colloquy
