import Colloquy.Proofs.Block.Scan
import Colloquy.Template

/-!
# Blocks as they are written

A block is written as a line with the marker and the tag, the body, and a line with the marker
alone; blanks may stand around either marker.  Wherever such a block stands in a text, the scan
gives its body back, and the line ends of the text do not matter.
-/

namespace Colloquy

structure Padding where
  before : String := ""
  after : String := ""
  blank : (before.toList ++ after.toList).all (fun c => Text.isBlank c && c != '\n') = true := by
    decide

theorem Padding.isBlank_of_mem (p : Padding) {c : Char}
    (hc : c ∈ p.before.toList ++ p.after.toList) : Text.isBlank c = true ∧ c ≠ '\n' := by
  have hblank := List.all_eq_true.mp p.blank c hc
  simpa using hblank

def Padding.around (p : Padding) (line : String) : String :=
  p.before ++ line ++ p.after

/-- A block with its fence lines. -/
def Fence.written (fence : Fence) (tag body : String) (opening closing : Padding) : String :=
  opening.around (String.ofList fence.marker ++ tag) ++ "\n" ++ body ++ "\n" ++
    closing.around (String.ofList fence.marker)

namespace Extraction

open Text (strip linesOf endedLines joinLines dropReturn withReturns)

variable {fence : Fence} {p : Padding} {line : String}

theorem strip_around : strip (p.around line).toList = strip line.toList := by
  rw [Padding.around, String.toList_append, String.toList_append, Text.strip_append_right,
    Text.strip_append_left]
  · intro c hc
    exact (p.isBlank_of_mem (List.mem_append_left _ hc)).left
  · intro c hc
    exact (p.isBlank_of_mem (List.mem_append_right _ hc)).left

theorem not_mem_around (h : '\n' ∉ line.toList) : '\n' ∉ (p.around line).toList := by
  have hpadding : '\n' ∉ p.before.toList ++ p.after.toList := by
    intro hmem
    exact (p.isBlank_of_mem hmem).right rfl
  rw [List.mem_append, not_or] at hpadding
  simp [Padding.around, h, hpadding]

theorem endedLines_around (h : '\n' ∉ line.toList) :
    exists ended, endedLines (p.around line).toList = [ended] ∧ strip ended = strip line.toList :=
  ⟨_, Text.endedLines_of_not_mem (not_mem_around h), Text.strip_dropReturn.trans strip_around⟩

theorem fence_line (fence : Fence) (f : Function) :
    '\n' ∉ (String.ofList fence.marker ++ f.name).toList ∧
      strip (String.ofList fence.marker ++ f.name).toList = fence.marker ++ f.name.toList := by
  cases fence with
  | dollars => cases f <;> decide
  | backticks => cases f <;> decide

theorem marker_line (fence : Fence) :
    '\n' ∉ (String.ofList fence.marker).toList ∧
      strip (String.ofList fence.marker).toList = fence.marker := by
  cases fence <;> decide

/-- The body of a written block is the body of the first block, if no line before it opens one. -/
theorem ofText_written {f : Function} {front body back : String} {opening closing : Padding}
    (hfront : forall line, line ∈ linesOf front.toList -> ¬Opens f.name.toList line)
    (hbody : LeftOpen fence (linesOf body.toList)) (hreturn : '\r' ∉ body.toList) :
    ofText (front ++ "\n" ++ fence.written f.name body opening closing ++ "\n" ++ back) f.name =
      .found body := by
  rcases endedLines_around (p := opening) (fence_line fence f).left with ⟨first, hfirst, hopening⟩
  rcases endedLines_around (p := closing) (marker_line fence).left with ⟨last, hlast, hclosing⟩
  have htext : (front ++ "\n" ++ fence.written f.name body opening closing ++ "\n" ++
      back).toList = front.toList ++ '\n' ::
        ((opening.around (String.ofList fence.marker ++ f.name)).toList ++ '\n' ::
          (body.toList ++ '\n' ::
            ((closing.around (String.ofList fence.marker)).toList ++ '\n' :: back.toList))) := by
    simp [Fence.written]
  have hlines : linesOf (front ++ "\n" ++ fence.written f.name body opening closing ++ "\n" ++
      back).toList = endedLines front.toList ++ first ::
        (endedLines body.toList ++ last :: linesOf back.toList) := by
    rw [htext, Text.linesOf_append_cons, Text.linesOf_append_cons, Text.linesOf_append_cons,
      Text.linesOf_append_cons, hfirst, hlast]
    rfl
  have hnone : forall line, line ∈ endedLines front.toList -> ¬Opens f.name.toList line :=
    Text.forall_strip_endedLines
      (p := fun cs => ¬exists fence : Fence, cs = fence.marker ++ f.name.toList)
      not_opens_nil hfront
  have hopened : OpenedBy f.name.toList _ fence _ :=
    ⟨endedLines front.toList, first, hlines, hnone, hopening.trans (fence_line fence f).right⟩
  have hleft : LeftOpen fence (endedLines body.toList) :=
    Text.forall_strip_endedLines (p := fun cs => cs ≠ fence.marker) marker_ne_nil.symm hbody
  have hclosed : ClosedAfter fence _ (endedLines body.toList) :=
    ⟨last, linesOf back.toList, rfl, hleft, hclosing.trans (marker_line fence).right⟩
  rw [ofText, ofLines_of_openedBy hopened, ofBody_of_closed hclosed,
    Text.joinLines_endedLines hreturn, String.ofList_toList]

/-- What is written as a block is found, whatever stands around it, and carriage returns at the
line ends change no answer. -/
theorem written_body_is_found :
    (forall (f : Function) (fence : Fence) (front body back : String) (opening closing : Padding),
      (forall line, line ∈ linesOf front.toList -> ¬Opens f.name.toList line) ->
      (forall line, line ∈ linesOf body.toList -> strip line ≠ fence.marker) ->
      '\r' ∉ body.toList ->
        ofText (front ++ "\n" ++ fence.written f.name body opening closing ++ "\n" ++ back)
          f.name = .found body) ∧
    forall text tag : String, '\r' ∉ text.toList ->
      ofText (String.ofList (withReturns text.toList)) tag = ofText text tag := by
  constructor
  · intro f fence front body back opening closing hfront hbody hreturn
    exact ofText_written hfront hbody hreturn
  · intro text tag hreturn
    rw [ofText, String.toList_ofList, Text.linesOf_withReturns hreturn]
    rfl

/-- An indented body that ends in blank lines, between a closing line and another block. -/
theorem indented_body_is_found :
    (forall line, line ∈ linesOf "$$$".toList -> ¬Opens Function.python.name.toList line) ∧
      ofText ("$$$" ++ "\n" ++ Fence.backticks.written Function.python.name "  $$$\n\n"
        { before := " " } { after := "\t" } ++ "\n" ++ "```python\nb") Function.python.name =
          .found "  $$$\n\n" := by
  have hfront : forall line, line ∈ linesOf "$$$".toList ->
      ¬Opens Function.python.name.toList line :=
    ofLines_eq_noBlock_iff.mp (by decide +kernel)
  have hbody : forall line, line ∈ linesOf "  $$$\n\n".toList ->
      strip line ≠ Fence.backticks.marker := by decide +kernel
  exact ⟨hfront, written_body_is_found.left _ _ _ _ _ _ _ hfront hbody (by decide)⟩

end Extraction
end Colloquy
