import Colloquy.Snippet

/-!
# Merging of touching snippets

Snippets that overlap or are adjacent are merged into one that covers both.  The
merged snippet takes the place of its best-ranked part, and a snippet that has
grown is merged again with whatever it has come to touch.
-/

namespace Colloquy
namespace Snippet

/-- The text of two touching snippets of which `first` does not start later.  When
the claimed overlap would cut a character, nothing of the second is left out. -/
def joinedText (first second : Snippet) : List Char :=
  if second.stop <= first.stop then first.text.toList
  else
    first.text.toList ++
      (Text.dropBytes? (first.stop - second.start) second.text.toList).getD second.text.toList

/-- The snippet that covers two touching snippets. -/
def join (a b : Snippet) : Snippet :=
  let first := if a.start <= b.start then a else b
  let second := if a.start <= b.start then b else a
  { source := first.source
    start := first.start
    firstPage := min first.firstPage second.firstPage
    lastPage := max first.lastPage second.lastPage
    text := String.ofList (joinedText first second) }

/-- The first snippet of a list that touches `s`, between those before and those
after it. -/
def firstTouching? (s : Snippet) : List Snippet -> Option (List Snippet × Snippet × List Snippet)
  | [] => none
  | x :: rest =>
      if x.touches s then some ([], x, rest)
      else
        match firstTouching? s rest with
        | some (before, hit, after) => some (x :: before, hit, after)
        | none => none

theorem firstTouching?_eq_append {s x : Snippet} {l before after : List Snippet}
    (h : firstTouching? s l = some (before, x, after)) : l = before ++ x :: after := by
  induction l generalizing before with
  | nil => simp [firstTouching?] at h
  | cons y rest ih =>
      unfold firstTouching? at h
      split at h
      · cases h
        rfl
      · split at h
        · cases h
          simp only [List.cons_append, List.cons.injEq, true_and]
          exact ih ‹_›
        · cases h

/-- Merges `grown`, which stands between `before` and `after`, with all that it
touches, and with all that the result then touches. -/
def settle (before : List Snippet) (grown : Snippet) (after : List Snippet) : List Snippet :=
  match _hb : firstTouching? grown before with
  | some (front, hit, back) => settle front (join hit grown) (back ++ after)
  | none =>
      match _ha : firstTouching? grown after with
      | some (front, hit, back) => settle before (join grown hit) (front ++ back)
      | none => before ++ grown :: after
termination_by before.length + after.length
decreasing_by
  · have := firstTouching?_eq_append _hb
    subst this
    simp
    omega
  · have := firstTouching?_eq_append _ha
    subst this
    simp

/-- Adds one snippet to a list of snippets no two of which touch. -/
def absorb (kept : List Snippet) (s : Snippet) : List Snippet :=
  match firstTouching? s kept with
  | some (before, hit, after) => settle before (join hit s) after
  | none => kept ++ [s]

def merge (snippets : List Snippet) : List Snippet :=
  snippets.foldl absorb []

end Snippet
end Colloquy
