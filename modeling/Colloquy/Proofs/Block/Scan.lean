import Colloquy.Block
import Colloquy.Proofs.Text.Lines
import Mathlib.Data.List.TakeDrop

/-!
# Scanning for a block

The answer of a scan is fixed by two lines: the first one that opens a block with the tag, and
the first one after it that closes this block.  What follows a closed block does not matter;
what follows any other text matters only by the lines that were missing.
-/

namespace Colloquy
namespace Extraction

open Text (strip linesOf endedLines joinLines)

variable {tag line line' : List Char} {lines more before after body : List (List Char)}
  {fence : Fence} {b : String}

def Opens (tag line : List Char) : Prop :=
  exists fence : Fence, strip line = fence.marker ++ tag

/-- The first line that opens a block with the tag has this fence, and these lines after it. -/
def OpenedBy (tag : List Char) (lines : List (List Char)) (fence : Fence)
    (after : List (List Char)) : Prop :=
  exists before opening, lines = before ++ opening :: after ∧
    (forall line, line ∈ before -> ¬Opens tag line) ∧ strip opening = fence.marker ++ tag

def LeftOpen (fence : Fence) (lines : List (List Char)) : Prop :=
  forall line, line ∈ lines -> strip line ≠ fence.marker

/-- The first line that, trimmed, is the marker of the fence has these lines before it. -/
def ClosedAfter (fence : Fence) (lines body : List (List Char)) : Prop :=
  exists closing rest, lines = body ++ closing :: rest ∧ LeftOpen fence body ∧
    strip closing = fence.marker

/-!
# Fences
-/

theorem marker_ne_nil : fence.marker ≠ [] := by
  cases fence with
  | dollars => exact List.cons_ne_nil _ _
  | backticks => exact List.cons_ne_nil _ _

theorem eq_of_marker_append {fence' : Fence} (h : fence.marker ++ tag = fence'.marker ++ tag) :
    fence = fence' := by
  have hmarker := List.append_cancel_right h
  cases fence with
  | dollars =>
      cases fence' with
      | dollars => rfl
      | backticks => exact absurd hmarker (by decide)
  | backticks =>
      cases fence' with
      | dollars => exact absurd hmarker (by decide)
      | backticks => rfl

theorem closes_iff : fence.closes line = true <-> strip line = fence.marker :=
  beq_iff_eq

theorem opens_iff : fence.opens tag line = true <-> strip line = fence.marker ++ tag :=
  beq_iff_eq

theorem opening?_eq_some_iff :
    Fence.opening? tag line = some fence <-> strip line = fence.marker ++ tag := by
  constructor
  · intro h
    exact opens_iff.mp (List.find?_some (p := fun fence => Fence.opens fence tag line) h)
  · intro h
    have hfound : Fence.opening? tag line ≠ none := by
      intro hnone
      have hmem : fence ∈ [Fence.dollars, Fence.backticks] := by
        cases fence with
        | dollars => exact List.mem_cons_self
        | backticks => exact List.mem_cons_of_mem _ List.mem_cons_self
      exact List.find?_eq_none.mp hnone fence hmem (opens_iff.mpr h)
    rcases Option.ne_none_iff_exists'.mp hfound with ⟨fence', hfence'⟩
    have hopens := List.find?_some (p := fun fence => Fence.opens fence tag line) hfence'
    rw [hfence', eq_of_marker_append ((opens_iff.mp hopens).symm.trans h)]

theorem opening?_eq_none_iff : Fence.opening? tag line = none <-> ¬Opens tag line := by
  rw [Option.eq_none_iff_forall_ne_some, Opens, not_exists]
  exact forall_congr' fun fence => not_congr opening?_eq_some_iff

theorem not_opens_nil : ¬Opens tag [] := by
  rintro ⟨fence, h⟩
  exact marker_ne_nil (List.append_eq_nil_iff.mp h.symm).left

/-!
# The answer

A line that opens a block is followed by a line that closes it, or by none; the first of these
cases is a block that is found and the second an unterminated one.
-/

theorem LeftOpen.not_closes (h : LeftOpen fence lines) :
    forall line, line ∈ lines -> (!fence.closes line) = true := by
  intro line hline
  have hopen : fence.closes line ≠ true := by
    intro hclosing
    exact h line hline (closes_iff.mp hclosing)
  simp [hopen]

theorem ofBody_of_closed (h : ClosedAfter fence lines body) :
    ofBody fence lines = found (String.ofList (joinLines body)) := by
  rcases h with ⟨closing, rest, rfl, hbody, hclosing⟩
  have hclose : (!fence.closes closing) = false := by
    simp [closes_iff.mpr hclosing]
  rw [ofBody, List.span_eq_takeWhile_dropWhile, List.takeWhile_append_of_pos hbody.not_closes,
    List.dropWhile_append_of_pos hbody.not_closes, List.takeWhile_cons, List.dropWhile_cons, hclose]
  simp

theorem ofBody_of_leftOpen (h : LeftOpen fence lines) : ofBody fence lines = unterminated := by
  have hdrop : lines.dropWhile (fun line => !fence.closes line) = [] := by
    rw [← List.append_nil lines, List.dropWhile_append_of_pos h.not_closes]
    rfl
  rw [ofBody, List.span_eq_takeWhile_dropWhile, hdrop]

theorem exists_first_or_none (p : List Char -> Prop) (lines : List (List Char)) :
    (exists before line after, lines = before ++ line :: after ∧
      (forall line, line ∈ before -> ¬p line) ∧ p line) ∨ forall line, line ∈ lines -> ¬p line := by
  induction lines with
  | nil => exact Or.inr (List.forall_mem_nil _)
  | cons line rest ih =>
      by_cases hline : p line
      · exact Or.inl ⟨[], line, rest, rfl, List.forall_mem_nil _, hline⟩
      · rcases ih with ⟨before, first, after, rfl, hbefore, hfirst⟩ | hnone
        · exact Or.inl ⟨line :: before, first, after, rfl,
            List.forall_mem_cons.mpr ⟨hline, hbefore⟩, hfirst⟩
        · exact Or.inr (List.forall_mem_cons.mpr ⟨hline, hnone⟩)

theorem closedAfter_or_leftOpen (fence : Fence) (lines : List (List Char)) :
    (exists body, ClosedAfter fence lines body) ∨ LeftOpen fence lines :=
  exists_first_or_none (fun line => strip line = fence.marker) lines

theorem ofBody_eq_found_iff : ofBody fence lines = found b <->
    exists body, ClosedAfter fence lines body ∧ b = String.ofList (joinLines body) := by
  constructor
  · intro h
    rcases closedAfter_or_leftOpen fence lines with ⟨body, hbody⟩ | hopen
    · rw [ofBody_of_closed hbody] at h
      cases h
      exact ⟨body, hbody, rfl⟩
    · rw [ofBody_of_leftOpen hopen] at h
      cases h
  · rintro ⟨body, hbody, rfl⟩
    exact ofBody_of_closed hbody

theorem ofBody_eq_unterminated_iff :
    ofBody fence lines = unterminated <-> LeftOpen fence lines := by
  constructor
  · intro h
    rcases closedAfter_or_leftOpen fence lines with ⟨body, hbody⟩ | hopen
    · rw [ofBody_of_closed hbody] at h
      cases h
    · exact hopen
  · exact ofBody_of_leftOpen

theorem ofBody_ne_noBlock : ofBody fence lines ≠ noBlock := by
  rcases closedAfter_or_leftOpen fence lines with ⟨body, hbody⟩ | hopen
  · rw [ofBody_of_closed hbody]
    exact nofun
  · rw [ofBody_of_leftOpen hopen]
    exact nofun

theorem ofLines_append_of_not_opens (h : forall line, line ∈ lines -> ¬Opens tag line) :
    ofLines tag (lines ++ more) = ofLines tag more := by
  induction lines with
  | nil => rfl
  | cons line rest ih =>
      rw [List.forall_mem_cons] at h
      rw [List.cons_append, ofLines, opening?_eq_none_iff.mpr h.left]
      exact ih h.right

theorem ofLines_of_openedBy (h : OpenedBy tag lines fence after) :
    ofLines tag lines = ofBody fence after := by
  rcases h with ⟨before, opening, rfl, hbefore, hopening⟩
  rw [ofLines_append_of_not_opens hbefore, ofLines, opening?_eq_some_iff.mpr hopening]

theorem exists_openedBy_or_not_opens (tag : List Char) (lines : List (List Char)) :
    (exists fence after, OpenedBy tag lines fence after) ∨
      forall line, line ∈ lines -> ¬Opens tag line := by
  rcases exists_first_or_none (Opens tag) lines with
    ⟨before, opening, after, hlines, hbefore, fence, hopening⟩ | hnone
  · exact Or.inl ⟨fence, after, before, opening, hlines, hbefore, hopening⟩
  · exact Or.inr hnone

theorem ofLines_eq_noBlock_iff :
    ofLines tag lines = noBlock <-> forall line, line ∈ lines -> ¬Opens tag line := by
  constructor
  · intro h
    rcases exists_openedBy_or_not_opens tag lines with ⟨fence, after, hopened⟩ | hnone
    · rw [ofLines_of_openedBy hopened] at h
      exact absurd h ofBody_ne_noBlock
    · exact hnone
  · intro h
    rw [← List.append_nil lines, ofLines_append_of_not_opens h]
    rfl

/-!
# Lines that follow

Lines that are appended do not change a block that was found.  They can only close a block that
was left open, or open one where there was none.
-/

theorem OpenedBy.append (h : OpenedBy tag lines fence after) (more : List (List Char)) :
    OpenedBy tag (lines ++ more) fence (after ++ more) := by
  rcases h with ⟨before, opening, rfl, hbefore, hopening⟩
  exact ⟨before, opening, by rw [List.append_assoc, List.cons_append], hbefore, hopening⟩

theorem ClosedAfter.append (h : ClosedAfter fence lines body) (more : List (List Char)) :
    ClosedAfter fence (lines ++ more) body := by
  rcases h with ⟨closing, rest, rfl, hbody, hclosing⟩
  exact ⟨closing, rest ++ more, by rw [List.append_assoc, List.cons_append], hbody, hclosing⟩

theorem LeftOpen.append (h : LeftOpen fence lines) (hmore : LeftOpen fence more) :
    LeftOpen fence (lines ++ more) :=
  List.forall_mem_append.mpr ⟨h, hmore⟩

theorem ofLines_append_of_found (h : ofLines tag lines = found b) (more : List (List Char)) :
    ofLines tag (lines ++ more) = found b := by
  rcases exists_openedBy_or_not_opens tag lines with ⟨fence, after, hopened⟩ | hnone
  · rw [ofLines_of_openedBy hopened, ofBody_eq_found_iff] at h
    rcases h with ⟨body, hbody, rfl⟩
    rw [ofLines_of_openedBy (hopened.append more), ofBody_of_closed (hbody.append more)]
  · rw [ofLines_eq_noBlock_iff.mpr hnone] at h
    cases h

/-- A last line is no part of a body: it closes the block, or does not matter. -/
theorem ofBody_concat : ofBody fence (lines ++ [line]) =
    if ofBody fence lines = unterminated ∧ strip line = fence.marker then
      found (String.ofList (joinLines lines))
    else ofBody fence lines := by
  rcases closedAfter_or_leftOpen fence lines with ⟨body, hbody⟩ | hopen
  · rw [ofBody_of_closed (hbody.append _), ofBody_of_closed hbody, if_neg]
    rintro ⟨h, _⟩
    cases h
  · rw [ofBody_of_leftOpen hopen]
    split
    · rename_i h
      exact ofBody_of_closed ⟨line, [], rfl, hopen, h.right⟩
    · rename_i h
      have hline : strip line ≠ fence.marker := fun hclosing => h ⟨rfl, hclosing⟩
      exact ofBody_of_leftOpen (hopen.append (List.forall_mem_singleton.mpr hline))

theorem ofLines_append_congr {more' : List (List Char)}
    (hbody : forall fence lines, ofBody fence (lines ++ more) = ofBody fence (lines ++ more'))
    (h : ofLines tag more = ofLines tag more') :
    ofLines tag (lines ++ more) = ofLines tag (lines ++ more') := by
  induction lines with
  | nil => exact h
  | cons first rest ih =>
      rw [List.cons_append, List.cons_append, ofLines, ofLines, ih]
      split
      · exact hbody _ rest
      · rfl

theorem opening?_congr (h : strip line = strip line') :
    Fence.opening? tag line = Fence.opening? tag line' := by
  rw [Fence.opening?, Fence.opening?]
  simp only [Fence.opens, h]

theorem ofLines_concat_congr (h : strip line = strip line') :
    ofLines tag (lines ++ [line]) = ofLines tag (lines ++ [line']) := by
  apply ofLines_append_congr
  · intro fence lines
    rw [ofBody_concat, ofBody_concat, h]
  · rw [ofLines, ofLines, opening?_congr h]
    rfl

theorem ofLines_concat_nil : ofLines tag (lines ++ [[]]) = ofLines tag lines := by
  rw [← List.append_nil lines, List.append_assoc]
  apply ofLines_append_congr
  · intro fence lines
    rw [List.nil_append, List.append_nil, ofBody_concat, if_neg]
    exact fun h => marker_ne_nil h.right.symm
  · exact ofLines_eq_noBlock_iff.mpr (List.forall_mem_singleton.mpr not_opens_nil)

theorem ofLines_endedLines (tag cs : List Char) :
    ofLines tag (endedLines cs) = ofLines tag (linesOf cs) := by
  rcases Text.endedLines_cases cs with hended | ⟨front, last, hlines, hended⟩
  · rw [hended, ofLines_concat_nil]
  · rw [hended, hlines, ofLines_concat_congr Text.strip_dropReturn]

theorem ofText_append_line (text more tag : String) :
    ofText (text ++ "\n" ++ more) tag =
      ofLines tag.toList (endedLines text.toList ++ linesOf more.toList) := by
  rw [ofText, String.toList_append, String.toList_append, List.append_assoc]
  exact congrArg (ofLines tag.toList) Text.linesOf_append_cons

theorem exists_openedBy_endedLines {cs : List Char} (h : ofLines tag (linesOf cs) ≠ noBlock) :
    exists fence after after', OpenedBy tag (linesOf cs) fence after ∧
      OpenedBy tag (endedLines cs) fence after' := by
  rcases Text.endedLines_cases cs with hended | ⟨front, last, hlines, hended⟩
  · rcases exists_openedBy_or_not_opens tag (linesOf cs) with ⟨fence, after, hopened⟩ | hnone
    · exact ⟨fence, after, after ++ [[]], hopened, hended ▸ hopened.append [[]]⟩
    · exact absurd (ofLines_eq_noBlock_iff.mpr hnone) h
  · rw [hlines] at h ⊢
    rw [hended]
    rcases exists_openedBy_or_not_opens tag front with ⟨fence, after, hopened⟩ | hnone
    · exact ⟨fence, _, _, hopened.append [last], hopened.append [Text.dropReturn last]⟩
    · by_cases hlast : Opens tag last
      · rcases hlast with ⟨fence, hopening⟩
        exact ⟨fence, [], [], ⟨front, last, rfl, hnone, hopening⟩,
          ⟨front, _, rfl, hnone, Text.strip_dropReturn.trans hopening⟩⟩
      · have hall : forall line, line ∈ front ++ [last] -> ¬Opens tag line :=
          List.forall_mem_append.mpr ⟨hnone, List.forall_mem_singleton.mpr hlast⟩
        exact absurd (ofLines_eq_noBlock_iff.mpr hall) h

theorem exists_closing_of_unterminated {text more tag : String}
    (h : ofText text tag = .unterminated) :
    exists fence after, OpenedBy tag.toList (linesOf text.toList) fence after ∧
      (ofText (text ++ "\n" ++ more) tag ≠ .unterminated ->
        exists line, line ∈ linesOf more.toList ∧ strip line = fence.marker) := by
  have hne : ofLines tag.toList (linesOf text.toList) ≠ noBlock := by
    rw [← ofText, h]
    exact nofun
  rcases exists_openedBy_endedLines hne with ⟨fence, after, after', hopened, hended⟩
  have hleft : LeftOpen fence after' := by
    rw [← ofBody_eq_unterminated_iff, ← ofLines_of_openedBy hended, ofLines_endedLines]
    exact h
  exists fence, after
  constructor
  · exact hopened
  · intro hchanged
    rw [ofText_append_line, ofLines_of_openedBy (hended.append _), Ne,
      ofBody_eq_unterminated_iff] at hchanged
    by_contra hnone
    apply hchanged
    apply hleft.append
    intro line hline hclosing
    exact hnone ⟨line, hline, hclosing⟩

/-- There is no block exactly if no line opens one.  Otherwise the first line that does so has a
fence, and the block is closed by the first line after it with the marker of this fence, or is
unterminated.  A block that was found stays, whatever follows it in later lines; any other
answer is only changed by a line that opens a block or closes the one that was opened. -/
theorem ofText_answers_first_block (text tag : String) :
    (ofText text tag = .noBlock <->
      forall line, line ∈ linesOf text.toList -> ¬Opens tag.toList line) ∧
    (forall fence after, OpenedBy tag.toList (linesOf text.toList) fence after ->
      (forall b, ofText text tag = .found b <->
        exists body, ClosedAfter fence after body ∧ b = String.ofList (joinLines body)) ∧
      (ofText text tag = .unterminated <-> LeftOpen fence after)) ∧
    (forall b more, ofText text tag = .found b ->
      ofText (text ++ "\n" ++ more) tag = .found b) ∧
    (forall more, ofText text tag = .noBlock -> ofText (text ++ "\n" ++ more) tag ≠ .noBlock ->
      exists line, line ∈ linesOf more.toList ∧ Opens tag.toList line) ∧
    forall more, ofText text tag = .unterminated ->
      exists fence after, OpenedBy tag.toList (linesOf text.toList) fence after ∧
        (ofText (text ++ "\n" ++ more) tag ≠ .unterminated ->
          exists line, line ∈ linesOf more.toList ∧ strip line = fence.marker) := by
  constructor
  · exact ofLines_eq_noBlock_iff
  constructor
  · intro fence after hopened
    rw [ofText, ofLines_of_openedBy hopened]
    constructor
    · intro b
      exact ofBody_eq_found_iff
    · exact ofBody_eq_unterminated_iff
  constructor
  · intro b more hfound
    rw [ofText_append_line]
    apply ofLines_append_of_found
    rw [ofLines_endedLines]
    exact hfound
  constructor
  · intro more hnone hchanged
    rw [ofText, ← ofLines_endedLines, ofLines_eq_noBlock_iff] at hnone
    rw [ofText_append_line, ofLines_append_of_not_opens hnone, Ne, ofLines_eq_noBlock_iff]
      at hchanged
    by_contra hopens
    apply hchanged
    intro line hline hline'
    exact hopens ⟨line, hline, hline'⟩
  · intro more
    exact exists_closing_of_unterminated

/-- A block with a fence of the other kind in its body, and another block behind it. -/
theorem quoted_fence_is_body :
    ofText "$$$python\n```python\n$$$" "python" = .found "```python" ∧
      ofText ("$$$python\n```python\n$$$" ++ "\n" ++ "$$$python\n```") "python" =
        .found "```python" := by
  have hfound : ofText "$$$python\n```python\n$$$" "python" = .found "```python" := by
    decide +kernel
  exact ⟨hfound, (ofText_answers_first_block _ _).right.right.left _ _ hfound⟩

end Extraction
end Colloquy
