import Colloquy.Text.Blank
import Colloquy.Text.Line

/-!
# Lines between line feeds

A line feed cuts a text in two: the lines of the whole are those of the first part, each of
them ended, and then those of the second.  Ending the last line may take a carriage return
off it, which trimming would have done as well.
-/

namespace Colloquy
namespace Text

variable {cs ds front back line : List Char}

/-!
# Trimming
-/

theorem strip_append_left (hfront : forall c, c ∈ front -> isBlank c = true) :
    strip (front ++ cs) = strip cs := by
  rw [strip, dropBlanks, List.dropWhile_append_of_pos hfront]
  rfl

theorem dropBlanksEnd_append (hback : forall c, c ∈ back -> isBlank c = true) :
    dropBlanksEnd (cs ++ back) = dropBlanksEnd cs := by
  have hreverse : forall c, c ∈ back.reverse -> isBlank c = true := by
    intro c hc
    exact hback c (List.mem_reverse.mp hc)
  rw [dropBlanksEnd, dropBlanks, List.reverse_append, List.dropWhile_append_of_pos hreverse]
  rfl

theorem strip_append_right (hback : forall c, c ∈ back -> isBlank c = true) :
    strip (cs ++ back) = strip cs := by
  rw [strip, dropBlanks, List.dropWhile_append]
  split
  · rename_i hempty
    have hnil : back.dropWhile isBlank = [] := by
      rw [← List.append_nil back, List.dropWhile_append_of_pos hback]
      rfl
    rw [hnil, strip, dropBlanks, List.isEmpty_iff.mp hempty]
  · exact dropBlanksEnd_append hback

/-!
# Line ends
-/

theorem dropReturn_concat : dropReturn (line ++ ['\r']) = line := by
  rw [dropReturn, List.getLast?_concat]
  exact List.dropLast_concat

theorem dropReturn_eq_self (h : '\r' ∉ line) : dropReturn line = line := by
  unfold dropReturn
  split
  · rename_i hlast
    exact absurd (List.mem_of_getLast? hlast) h
  · rfl

theorem strip_dropReturn : strip (dropReturn line) = strip line := by
  unfold dropReturn
  split
  · rename_i hlast
    rcases List.getLast?_eq_some_iff.mp hlast with ⟨front, rfl⟩
    have hblank : forall c, c ∈ ['\r'] -> isBlank c = true := List.forall_mem_singleton.mpr rfl
    rw [List.dropLast_concat, strip_append_right hblank]
  · rfl

theorem isDigit_of_mem_digits {c : Char} {n : Nat} (h : c ∈ (toString n).toList) :
    c.isDigit = true := by
  rw [Nat.toString_eq_repr, Nat.toList_repr] at h
  exact Nat.isDigit_of_mem_toDigits (by decide) (by decide) h

/-- The lines of a text after which a line feed follows. -/
def endedLines (cs : List Char) : List (List Char) :=
  (cs.splitOn '\n').map dropReturn

theorem closeLines_append {pieces more : List (List Char)} (hmore : more ≠ []) :
    closeLines (pieces ++ more) = pieces.map dropReturn ++ closeLines more := by
  induction pieces with
  | nil => rfl
  | cons piece pieces ih =>
      cases hrest : pieces ++ more with
      | nil => exact absurd (List.append_eq_nil_iff.mp hrest).right hmore
      | cons next rest =>
          rw [List.cons_append, hrest, closeLines, ← hrest, ih]
          rfl

theorem linesOf_append_cons : linesOf (cs ++ '\n' :: ds) = endedLines cs ++ linesOf ds := by
  rw [linesOf, List.splitOn_append_cons_self, closeLines_append (List.splitOn_ne_nil _ _)]
  rfl

theorem endedLines_append_cons :
    endedLines (cs ++ '\n' :: ds) = endedLines cs ++ endedLines ds := by
  rw [endedLines, List.splitOn_append_cons_self, List.map_append]
  rfl

theorem endedLines_of_not_mem (h : '\n' ∉ line) : endedLines line = [dropReturn line] := by
  rw [endedLines, List.splitOn_eq_singleton h]
  rfl

theorem linesOf_of_not_mem (h : '\n' ∉ line) :
    linesOf line = if line.isEmpty then [] else [line] := by
  rw [linesOf, List.splitOn_eq_singleton h, closeLines]

/-- Induction on the lines of a text, first to last. -/
@[elab_as_elim]
theorem line_induction {motive : List Char -> Prop} (cs : List Char)
    (last : forall line, '\n' ∉ line -> motive line)
    (line : forall line rest, '\n' ∉ line -> motive rest -> motive (line ++ '\n' :: rest)) :
    motive cs := by
  by_cases hmem : '\n' ∈ cs
  · rcases List.eq_append_cons_of_mem hmem with ⟨front, rest, hcs, hfront⟩
    rw [hcs]
    exact line front rest hfront (line_induction rest last line)
  · exact last cs hmem
termination_by cs.length
decreasing_by
  rw [hcs, List.length_append, List.length_cons]
  omega

theorem joinLines_endedLines (h : '\r' ∉ cs) : joinLines (endedLines cs) = cs := by
  induction cs using line_induction with
  | last line hline =>
      rw [endedLines_of_not_mem hline, dropReturn_eq_self h]
      exact List.intercalate_singleton
  | line line rest hline ih =>
      rw [List.mem_append, List.mem_cons, not_or, not_or] at h
      have hne : endedLines rest ≠ [] := by
        simp [endedLines]
      rw [endedLines_append_cons, endedLines_of_not_mem hline, dropReturn_eq_self h.left,
        List.singleton_append, joinLines, List.intercalate_cons_of_ne_nil hne]
      rw [joinLines] at ih
      rw [ih h.right.right, List.append_assoc]
      rfl

/-- Ending the last line of a text adds a blank line, or trims the last line. -/
theorem endedLines_cases (cs : List Char) :
    endedLines cs = linesOf cs ++ [[]] ∨
      exists front last, linesOf cs = front ++ [last] ∧
        endedLines cs = front ++ [dropReturn last] := by
  induction cs using line_induction with
  | last line hline =>
      rw [endedLines_of_not_mem hline, linesOf_of_not_mem hline]
      cases line with
      | nil => exact Or.inl rfl
      | cons c cs => exact Or.inr ⟨[], c :: cs, rfl, rfl⟩
  | line line rest hline ih =>
      rw [endedLines_append_cons, linesOf_append_cons]
      rcases ih with ih | ⟨front, last, hlines, hended⟩
      · rw [ih, List.append_assoc]
        exact Or.inl rfl
      · apply Or.inr
        exists endedLines line ++ front, last
        constructor
        · simp [hlines]
        · simp [hended]

theorem forall_strip_endedLines {p : List Char -> Prop} (hblank : p [])
    (h : forall line, line ∈ linesOf cs -> p (strip line)) :
    forall line, line ∈ endedLines cs -> p (strip line) := by
  intro line hline
  rcases endedLines_cases cs with hcases | ⟨front, last, hlines, hended⟩
  · rw [hcases] at hline
    rcases List.mem_append.mp hline with hline | hline
    · exact h line hline
    · rw [List.mem_singleton.mp hline]
      exact hblank
  · rw [hended] at hline
    rcases List.mem_append.mp hline with hline | hline
    · exact h line (hlines ▸ List.mem_append_left _ hline)
    · rw [List.mem_singleton.mp hline, strip_dropReturn]
      exact h last (hlines ▸ List.mem_append_right _ List.mem_cons_self)

/-!
# Carriage returns

A text with line ends of two characters has the same lines.
-/

def withReturns (cs : List Char) : List Char :=
  cs.flatMap fun c => if c = '\n' then ['\r', '\n'] else [c]

theorem withReturns_of_not_mem (h : '\n' ∉ line) : withReturns line = line := by
  induction line with
  | nil => rfl
  | cons c line ih =>
      rw [List.mem_cons, not_or] at h
      have hline := ih h.right
      rw [withReturns] at hline ⊢
      rw [List.flatMap_cons, if_neg (Ne.symm h.left), hline]
      rfl

theorem linesOf_withReturns (h : '\r' ∉ cs) : linesOf (withReturns cs) = linesOf cs := by
  induction cs using line_induction with
  | last line hline => rw [withReturns_of_not_mem hline]
  | line line rest hline ih =>
      rw [List.mem_append, List.mem_cons, not_or, not_or] at h
      have hwith : withReturns (line ++ '\n' :: rest) =
          (line ++ ['\r']) ++ '\n' :: withReturns rest := by
        have hfront := withReturns_of_not_mem hline
        rw [withReturns] at hfront ⊢
        rw [List.flatMap_append, hfront, List.append_assoc]
        rfl
      have hended : '\n' ∉ line ++ ['\r'] := by
        simp [hline]
      rw [hwith, linesOf_append_cons, linesOf_append_cons, ih h.right.right,
        endedLines_of_not_mem hended, endedLines_of_not_mem hline, dropReturn_concat,
        dropReturn_eq_self h.left]

end Text
end Colloquy
