/-!
# Segments of a text

A segmentation reads a text from left to right and says before each character whether
a new segment begins there.  It may look at the characters that follow.
-/

namespace Colloquy
namespace Unicode

/-- A rule for the bounds of segments.  `next` is given what was read of the segment, a
character and the text after it; without a result the segment ends before that
character. -/
structure Segmentation (σ : Type) where
  first : Char -> σ
  next : σ -> Char -> List Char -> Option σ

namespace Segmentation

/-- How many more characters belong to the segment. -/
def rest (s : Segmentation σ) (read : σ) : List Char -> Nat
  | [] => 0
  | c :: cs =>
      match s.next read c cs with
      | some read => rest s read cs + 1
      | none => 0

/-- The number of characters of the first segment. -/
def firstLength (s : Segmentation σ) : List Char -> Nat
  | [] => 0
  | c :: cs => s.rest (s.first c) cs + 1

/-- The numbers of characters of all segments, given those read of the first one. -/
def lengthsFrom (s : Segmentation σ) (read : σ) (count : Nat) : List Char -> List Nat
  | [] => [count]
  | c :: cs =>
      match s.next read c cs with
      | some read => lengthsFrom s read (count + 1) cs
      | none => count :: lengthsFrom s (s.first c) 1 cs

def lengths (s : Segmentation σ) : List Char -> List Nat
  | [] => []
  | c :: cs => s.lengthsFrom (s.first c) 1 cs

end Segmentation
end Unicode
end Colloquy
