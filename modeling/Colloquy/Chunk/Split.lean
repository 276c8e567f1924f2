import Colloquy.Chunk.Section
import Colloquy.Text.Blank

/-!
# Splitting a text into chunks

A chunk begins where the one before it ended, or earlier if chunks overlap.  It consists
of sections of the highest level whose first section fits: as many as fit, and at least
one.  What does not count for the size are blanks at either end; they are cut off in the
end.
-/

namespace Colloquy
namespace Chunk

/-- The greatest size of a chunk, and of the part that it shares with the one before,
in characters. -/
structure Settings where
  size : Nat
  overlap : Nat
  overlap_lt : overlap < size

/-- The number of characters between the blanks at the ends. -/
def trimmedLength (cs : List Char) : Nat :=
  (Text.strip cs).length

/-!
# Levels
-/

/-- The levels with the lengths of their first sections.  Of neighbours the later one
stays, if its first section is no longer than that of the one before. -/
def growing : List (Level × Nat) -> List (Level × Nat)
  | [] => []
  | a :: rest =>
      match growing rest with
      | [] => [a]
      | b :: more => if b.2 <= a.2 then b :: more else a :: b :: more

/-- The last level before the first one whose first section is too large, and the end of
that section. -/
def climb (s : Settings) (r : Remaining) (best : Option Level) :
    List (Level × Nat) -> Option Level × Option Nat
  | [] => (best, none)
  | (level, length) :: rest =>
      if s.size < trimmedLength (r.text.take length) then (best, some (r.place + length))
      else climb s r (some level) rest

def bestLevel (s : Settings) (r : Remaining) (levels : List Level) :
    Option Level × Option Nat :=
  climb s r none (growing (levels.map fun level => (level, r.firstLength level)))

def units : List Level := [.character, .grapheme, .word, .sentence]

/-- The smaller of two bounds, either of which may be missing. -/
def tighter : Option Nat -> Option Nat -> Option Nat
  | some a, some b => some (min a b)
  | some a, none => some a
  | none, b => b

/-- The level whose sections make up the next chunk, and the last place at which one of
these may begin. -/
def level (s : Settings) (r : Remaining) : Level × Option Nat :=
  match bestLevel s r r.lineLevels with
  | (some best, bound) => (best, bound)
  | (none, bound) =>
      let (best, unitBound) := bestLevel s r units
      (best.getD .character, tighter unitBound bound)

/-- The sections that the next chunk may consist of. -/
def candidates (s : Settings) (r : Remaining) : List Span :=
  let (best, bound) := level s r
  match bound with
  | some last => (r.sections best).takeWhile fun c => c.start <= last
  | none => r.sections best

/-!
# Chunks
-/

/-- The end of the last section up to which the text fits, or else of the first one. -/
def chunkStop (s : Settings) (r : Remaining) (sections : List Span) : Nat :=
  let fits (c : Span) := trimmedLength (r.text.take (c.stop - r.place)) <= s.size
  match (sections.takeWhile fits).getLast? with
  | some c => c.stop
  | none => (sections.head?.map Span.stop).getD r.stop

/-- Searches the sections from `low` to `high` for one that begins after `r.place` and
from which on the chunk is no larger than the overlap: halving goes on to the left when
it is smaller, else to the right. -/
def overlapStart (s : Settings) (r : Remaining) (stop : Nat) (sections : Array Span)
    (best low high : Nat) : Nat :=
  if _h : low <= high then
    let middle := low + (high - low) / 2
    match sections[middle]? with
    | none => best
    | some c =>
        let size := trimmedLength (((r.text.drop (c.start - r.place))).take (stop - c.start))
        let best := if size <= s.overlap && c.start < best && r.place < c.start then c.start
          else best
        if _m : size < s.overlap ∧ 0 < middle then
          overlapStart s r stop sections best low (middle - 1)
        else overlapStart s r stop sections best (middle + 1) high
  else best
termination_by high + 1 - low
decreasing_by
  · omega
  · omega

/-- Where the chunk after one that ends at `stop` begins. -/
def nextPlace (s : Settings) (r : Remaining) (sections : List Span) (stop : Nat) : Nat :=
  if s.overlap == 0 then stop
  else
    let last := (sections.takeWhile fun c => c.stop < stop).length
    overlapStart s r stop sections.toArray stop 0 last

/-- The stretch without the blanks at its ends. -/
def trimmed (r : Remaining) (stop : Nat) : Span :=
  let raw := r.text.take (stop - r.place)
  let start := r.place + (raw.takeWhile Text.isBlank).length
  ⟨start, start + trimmedLength raw⟩

/-- The chunks from `place` on.  A chunk that is empty, or ends no later than all before
it, is left out. -/
def chunksFrom (s : Settings) (text : List Char) (breaks : List LineBreak)
    (place covered : Nat) : List Span :=
  if _h : place < text.length then
    let r : Remaining :=
      ⟨place, text.drop place, breaks.filter fun b => place <= b.span.start⟩
    let sections := candidates s r
    let stop := chunkStop s r sections
    let next := max (nextPlace s r sections stop) (place + 1)
    let chunk := trimmed r stop
    if chunk.start < chunk.stop && covered < chunk.stop then
      chunk :: chunksFrom s text breaks next chunk.stop
    else chunksFrom s text breaks next covered
  else []
termination_by text.length - place

def chunks (s : Settings) (text : List Char) : List Span :=
  chunksFrom s text (lineBreaks text) 0 0

end Chunk
end Colloquy
