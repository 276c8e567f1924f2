import Colloquy.Proofs.Text.Lines
import Colloquy.Snippet.Extract

/-!
# Reading extracts back

Extracts that were rendered are found again by cutting the text at the lines between them, unless
one of the texts has such a line itself.
-/

namespace Colloquy
namespace Extract

open Text (joinLines)

def HasNoSeparator (text : String) : Prop :=
  separator.toList ∉ text.toList.splitOn '\n'

instance (text : String) : Decidable (HasNoSeparator text) :=
  inferInstanceAs (Decidable (_ ∉ _))

/-- The parts of a text before, between and after its lines that are separators. -/
def partsOf (text : String) : List String :=
  ((text.toList.splitOn '\n').splitOn separator.toList).map fun lines =>
    String.ofList (joinLines lines)

/-!
# Bodies
-/

section

variable {base n : Nat} {snippets : List Snippet} {text text' : String}

theorem bodies_eq_mapIdx : bodies base snippets =
    snippets.mapIdx fun i s => body (number base i) s.text := by
  rw [bodies, numbers]
  apply List.ext_getElem?
  intro i
  rw [List.getElem?_zipWith, List.getElem?_map, List.getElem?_map, List.getElem?_mapIdx]
  cases h : snippets[i]? with
  | none => simp
  | some s =>
      have hi := (List.getElem?_eq_some_iff.mp h).choose
      rw [List.getElem?_range hi]
      rfl

theorem toList_body : (body n text).toList =
    ("Extract #" ++ toString n ++ ":").toList ++ '\n' :: ([] ++ '\n' :: text.toList) := by
  simp [body]

theorem feed_notMem_heading : '\n' ∉ ("Extract #" ++ toString n ++ ":").toList := by
  intro h
  simp only [String.toList_append, List.mem_append] at h
  rcases h with (h | h) | h
  · exact absurd h (by decide)
  · exact absurd (Text.isDigit_of_mem_digits h) (by decide)
  · exact absurd h (by decide)

theorem splitOn_body : (body n text).toList.splitOn '\n' =
    ("Extract #" ++ toString n ++ ":").toList :: [] :: text.toList.splitOn '\n' := by
  rw [toList_body, List.splitOn_append_cons_self_of_not_mem feed_notMem_heading,
    List.splitOn_append_cons_self_of_not_mem List.not_mem_nil]

theorem hasNoSeparator_body (h : HasNoSeparator text) : HasNoSeparator (body n text) := by
  unfold HasNoSeparator
  rw [splitOn_body, List.mem_cons, List.mem_cons, not_or, not_or]
  refine ⟨fun heading => ?_, by decide, h⟩
  have hhead := congrArg List.head? heading
  simp [separator] at hhead

theorem body_injective (h : body n text = body n text') : text = text' := by
  have hlist := congrArg String.toList h
  rw [toList_body, toList_body] at hlist
  have hrest := (List.cons.inj (List.append_cancel_left hlist)).right
  exact String.toList_inj.mp (List.cons.inj hrest).right

end

/-!
# Texts with separators between them

A text without separators among its lines stays one part when the lines are divided at the
separators.
-/

theorem splitOn_intercalate_separator {parts : List String} (h : parts ≠ []) :
    (String.intercalate ("\n" ++ separator ++ "\n") parts).toList.splitOn '\n' =
      List.intercalate [separator.toList] (parts.map fun part => part.toList.splitOn '\n') := by
  induction parts with
  | nil => exact absurd rfl h
  | cons part rest ih =>
      cases rest with
      | nil => simp
      | cons next rest =>
          have hlist :
              (String.intercalate ("\n" ++ separator ++ "\n") (part :: next :: rest)).toList =
              part.toList ++ '\n' :: (separator.toList ++ '\n' ::
                (String.intercalate ("\n" ++ separator ++ "\n") (next :: rest)).toList) := by
            rw [String.intercalate_cons_cons]
            simp
          have hseparator : separator.toList.splitOn '\n' = [separator.toList] :=
            List.splitOn_eq_singleton (by decide)
          rw [hlist, List.splitOn_append_cons_self, List.splitOn_append_cons_self, hseparator,
            ih (List.cons_ne_nil _ _), ← List.append_assoc]
          exact (List.intercalate_cons_of_ne_nil (List.cons_ne_nil _ _)).symm

/-- What is put together of texts without separators is cut into these texts again. -/
theorem partsOf_intercalate {parts : List String} (hne : parts ≠ [])
    (h : forall part, part ∈ parts -> HasNoSeparator part) :
    partsOf (String.intercalate ("\n" ++ separator ++ "\n") parts) = parts := by
  have hlines : forall lines, lines ∈ parts.map (fun part => part.toList.splitOn '\n') ->
      separator.toList ∉ lines := by
    intro lines hmem
    rcases List.mem_map.mp hmem with ⟨part, hpart, rfl⟩
    exact h part hpart
  rw [partsOf, splitOn_intercalate_separator hne,
    List.splitOn_intercalate _ hlines (by simpa using hne), List.map_map]
  have hjoin : forall part, part ∈ parts ->
      String.ofList (joinLines (part.toList.splitOn '\n')) = part := by
    intro part _
    rw [joinLines, List.intercalate_splitOn, String.ofList_toList]
  exact (List.map_congr_left hjoin).trans (List.map_id parts)

section

variable {base : Nat} {snippets : List Snippet}

theorem partsOf_render (hne : snippets ≠ [])
    (h : forall s, s ∈ snippets -> HasNoSeparator s.text) :
    partsOf (render base snippets) = bodies base snippets := by
  rw [bodies_eq_mapIdx, render, bodies_eq_mapIdx]
  refine partsOf_intercalate (List.mapIdx_ne_nil_iff.mpr hne) fun part hpart => ?_
  rcases List.mem_mapIdx.mp hpart with ⟨i, hi, rfl⟩
  exact hasNoSeparator_body (h _ (List.getElem_mem hi))

theorem texts_eq_of_bodies_eq {snippets' : List Snippet}
    (h : bodies base snippets' = bodies base snippets) :
    snippets'.map Snippet.text = snippets.map Snippet.text := by
  rw [bodies_eq_mapIdx, bodies_eq_mapIdx] at h
  apply List.ext_getElem?
  intro i
  have hpart := congrArg (fun parts => parts[i]?) h
  simp only [List.getElem?_mapIdx] at hpart
  rw [List.getElem?_map, List.getElem?_map]
  apply Option.map_injective fun _ _ => body_injective (n := number base i)
  rw [Option.map_map, Option.map_map]
  exact hpart

end

/-- Cutting rendered extracts at the separators gives back one part for each snippet, in their
order, and each part is the heading, an empty line and the text as it was.  The numbers go on from
the base up to the greatest number of 64 bits and stay there.  There is nothing else than the parts
and the separators between them, so the rendering and the base determine the texts. -/
theorem rendered_extracts_are_read_back (base : Nat) {snippets : List Snippet}
    (hne : snippets ≠ []) (h : forall s, s ∈ snippets -> HasNoSeparator s.text) :
    partsOf (render base snippets) = snippets.mapIdx (fun i s =>
        "Extract #" ++ toString (min (base + i) (Nat.pow 2 64 - 1)) ++ ":\n\n" ++ s.text) ∧
      render base snippets =
        String.intercalate "\n-----\n" (partsOf (render base snippets)) ∧
      forall snippets' : List Snippet, snippets' ≠ [] ->
        (forall s, s ∈ snippets' -> HasNoSeparator s.text) ->
          render base snippets' = render base snippets ->
            snippets'.map Snippet.text = snippets.map Snippet.text := by
  refine ⟨?_, ?_, ?_⟩
  · rw [partsOf_render hne h, bodies_eq_mapIdx]
    rfl
  · rw [partsOf_render hne h]
    rfl
  · intro snippets' hne' h' hrender
    apply texts_eq_of_bodies_eq
    rw [← partsOf_render hne' h', hrender, partsOf_render hne h]

/-- An empty text, and one that looks like an extract and ends in a line feed, numbered where the
numbers end. -/
def lookalikes : List Snippet := [
  { source := "page", start := 0, text := "" },
  { source := "page", start := 9, text := "Extract #1:\n\n----- \n" }]

theorem lookalikes_are_read_back :
    partsOf (render (Nat.pow 2 64 - 1) lookalikes) =
        ["Extract #18446744073709551615:\n\n",
          "Extract #18446744073709551615:\n\nExtract #1:\n\n----- \n"] ∧
      forall s, s ∈ lookalikes -> HasNoSeparator s.text := by
  have hplain : forall s, s ∈ lookalikes -> HasNoSeparator s.text := by decide +kernel
  rcases rendered_extracts_are_read_back (Nat.pow 2 64 - 1) (List.cons_ne_nil _ _) hplain with
    ⟨hparts, _⟩
  exact ⟨hparts.trans (by decide +kernel), hplain⟩

end Extract
end Colloquy
