import Colloquy.Proofs.Template.Reading

/-!
# Refused texts

A text is refused because of the first placeholder in it that names no known function.  Any
other text has exactly one reading, and the template calls a function exactly if a placeholder
for one stands in the text.
-/

namespace Colloquy
namespace Template

structure UnknownAt (cs : List Char) (place : Nat) (name : List Char) : Prop where
  isName : IsName name
  unknown : forall f : Function, f.name.toList ≠ name
  stands : Segment.placeholder name <+: cs.drop place

/-- Of the placeholders that name no known function, the first in the text has this name. -/
def FirstUnknown (cs name : List Char) : Prop :=
  exists place, UnknownAt cs place name ∧
    forall place' name', UnknownAt cs place' name' -> place <= place'

section

variable {cs front after name : List Char} {place : Nat} {f : Function}

theorem placeholder?_of_unknownAt_zero (h : UnknownAt cs 0 name) :
    exists after, placeholder? cs = some (name, after) := by
  rcases h.stands with ⟨after, hafter⟩
  exact ⟨after, placeholder?_eq_some_iff.mpr ⟨h.isName, hafter.symm⟩⟩

theorem unknownAt_zero (h : placeholder? cs = some (name, after))
    (hunknown : forall f : Function, f.name.toList ≠ name) : UnknownAt cs 0 name := by
  rcases placeholder?_eq_some_iff.mp h with ⟨hname, rfl⟩
  exact ⟨hname, hunknown, List.prefix_append _ after⟩

theorem not_unknownAt_nil : ¬UnknownAt [] place name := by
  intro h
  have hstands := h.stands
  rw [List.drop_nil, List.prefix_nil] at hstands
  cases hstands

theorem unknownAt_append_iff :
    UnknownAt (front ++ cs) (front.length + place) name <-> UnknownAt cs place name := by
  constructor
  · intro h
    exact ⟨h.isName, h.unknown, List.drop_length_add_append place ▸ h.stands⟩
  · intro h
    exact ⟨h.isName, h.unknown, (List.drop_length_add_append place).symm ▸ h.stands⟩

theorem firstUnknown_append_iff
    (hfront : forall place name, UnknownAt (front ++ cs) place name -> front.length <= place) :
    FirstUnknown (front ++ cs) name <-> FirstUnknown cs name := by
  constructor
  · rintro ⟨place, hat, hfirst⟩
    rcases Nat.exists_eq_add_of_le (hfront place name hat) with ⟨rest, rfl⟩
    exists rest
    constructor
    · exact unknownAt_append_iff.mp hat
    · intro place' name' hat'
      exact Nat.le_of_add_le_add_left (hfirst _ name' (unknownAt_append_iff.mpr hat'))
  · rintro ⟨place, hat, hfirst⟩
    exists front.length + place
    constructor
    · exact unknownAt_append_iff.mpr hat
    · intro place' name' hat'
      rcases Nat.exists_eq_add_of_le (hfront place' name' hat') with ⟨rest, rfl⟩
      exact Nat.add_le_add_left (hfirst rest name' (unknownAt_append_iff.mp hat')) _

theorem one_le_of_unknownAt (hnone : placeholder? cs = none) (h : UnknownAt cs place name) :
    1 <= place := by
  cases place with
  | zero =>
      rcases placeholder?_of_unknownAt_zero h with ⟨after, hfound⟩
      rw [hnone] at hfound
      cases hfound
  | succ place => exact Nat.le_add_left 1 place

theorem length_le_of_unknownAt
    (h : UnknownAt (Segment.placeholder f.name.toList ++ after) place name) :
    (Segment.placeholder f.name.toList).length <= place := by
  by_contra hlt
  rw [Nat.not_le] at hlt
  cases place with
  | zero =>
      rcases placeholder?_of_unknownAt_zero h with ⟨_, hfound⟩
      rw [placeholder?_eq_some_iff.mpr ⟨isName_function f, rfl⟩] at hfound
      cases hfound
      exact h.unknown f rfl
  | succ place =>
      have hplace : place < (f.name.toList ++ ['(', ')', '\x7d']).length :=
        Nat.lt_of_succ_lt_succ hlt
      have hbrace := brace_not_mem_placeholder_tail (isName_function f)
      rcases h.stands with ⟨back, hback⟩
      rw [Segment.placeholder, Segment.placeholder, List.cons_append, List.cons_append,
        List.cons_append, List.cons_append, List.drop_succ_cons,
        List.drop_append_of_le_length (Nat.le_of_lt hplace), List.drop_eq_getElem_cons hplace,
        List.cons_append, List.cons.injEq] at hback
      exact hbrace (hback.left ▸ List.getElem_mem hplace)

theorem segmentsFrom_eq_error_iff {text : List Char} {e : UnknownFunction} :
    segmentsFrom text cs = .error e <-> FirstUnknown cs e.name.toList := by
  fun_induction segmentsFrom text cs with
  | case1 text =>
      constructor
      · intro h
        cases h
      · rintro ⟨place, hat, _⟩
        exact absurd hat not_unknownAt_nil
  | case2 text c rest name after hfound hnone =>
      have hunknown : forall f : Function, f.name.toList ≠ name := by
        intro f hf
        rw [ofName?_eq_some_iff.mpr hf] at hnone
        cases hnone
      constructor
      · intro h
        cases h
        rw [String.toList_ofList]
        exact ⟨0, unknownAt_zero hfound hunknown, fun _ _ _ => Nat.zero_le _⟩
      · rintro ⟨place, hat, hfirst⟩
        cases Nat.le_zero.mp (hfirst 0 name (unknownAt_zero hfound hunknown))
        rcases placeholder?_of_unknownAt_zero hat with ⟨_, hfound'⟩
        rw [hfound] at hfound'
        cases hfound'
        rw [String.ofList_toList]
  | case3 text c rest name after hfound f hf ih =>
      rcases placeholder?_eq_some_iff.mp hfound with ⟨_, heq⟩
      have hpast : FirstUnknown (Segment.placeholder f.name.toList ++ after) e.name.toList <->
          FirstUnknown after e.name.toList := by
        apply firstUnknown_append_iff
        intro place name hat
        exact length_le_of_unknownAt hat
      rw [heq, ← ofName?_eq_some_iff.mp hf, hpast, ← ih]
      cases segmentsFrom [] after with
      | ok more =>
          constructor
          · intro h
            cases h
          · intro h
            cases h
      | error e' => exact Iff.rfl
  | case4 text c rest hnone ih =>
      have hskip :
          FirstUnknown ([c] ++ rest) e.name.toList <-> FirstUnknown rest e.name.toList := by
        apply firstUnknown_append_iff
        intro place name hat
        exact one_le_of_unknownAt hnone hat
      rw [ih]
      exact hskip.symm

end

theorem parse_eq_error_iff {text : String} {e : UnknownFunction} :
    parse text = .error e <-> FirstUnknown text.toList e.name.toList := by
  have hread : segmentsFrom [] text.toList = .error e <->
      FirstUnknown text.toList e.name.toList := segmentsFrom_eq_error_iff
  rw [← hread, parse]
  cases segmentsFrom [] text.toList with
  | ok segments => simp [Except.map]
  | error e' => simp [Except.map]

theorem exists_parse_eq_error_iff {text : String} :
    (exists e, parse text = .error e) <->
      exists name, Calls text.toList name ∧ forall f : Function, f.name.toList ≠ name := by
  have hknown : (exists t, parse text = .ok t) <-> KnownCalls text := by
    rw [← exists_reads_iff]
    exact exists_congr fun t => parse_eq_ok_iff
  have hcases : (exists e, parse text = .error e) <-> ¬exists t, parse text = .ok t := by
    cases parse text with
    | ok t => simp
    | error e => simp
  rw [hcases, hknown, KnownCalls]
  simp only [not_forall, not_exists, exists_prop]

theorem Reads.hasCalls_iff {text : String} {t : Template} (h : Reads text t) :
    t.hasCalls = true <->
      exists f : Function, Segment.placeholder f.name.toList <:+: text.toList := by
  have htext : text.toList = t.segments.flatMap Segment.source := by
    have hsource := congrArg String.toList h.source
    rw [Template.source, String.toList_ofList] at hsource
    exact hsource.symm
  constructor
  · intro hcalls
    rcases List.any_eq_true.mp hcalls with ⟨s, hs, hcall⟩
    cases s with
    | text u => cases hcall
    | call f =>
        rw [htext]
        exact ⟨f, List.infix_of_mem_flatten (List.mem_map_of_mem (f := Segment.source) hs)⟩
  · rintro ⟨f, hf⟩
    by_contra hcalls
    have hnone : forall s, s ∈ t.segments -> s.isCall = false := by
      intro s hs
      by_contra hcall
      exact hcalls (List.any_eq_true.mpr ⟨s, hs, Bool.not_eq_false _ ▸ hcall⟩)
    have hplain := h.plain
    have hapart := h.apart
    rw [htext] at hf
    revert hf hnone hplain hapart
    -- Without calls there is at most one segment, and it is plain.
    rcases t.segments with _ | ⟨s, _ | ⟨s', rest⟩⟩
    · intro hf _ _ _
      exact not_calls_nil _ ⟨isName_function f, hf⟩
    · intro hf hnone hplain _
      cases s with
      | text u =>
          rw [List.flatMap_singleton] at hf
          exact (hplain _ List.mem_cons_self).right _ ⟨isName_function f, hf⟩
      | call g => cases hnone _ List.mem_cons_self
    · intro _ hnone _ hapart
      rcases (List.isChain_cons_cons.mp hapart).left with hcall | hcall
      · rw [hnone s List.mem_cons_self] at hcall
        cases hcall
      · rw [hnone s' (List.mem_cons_of_mem _ List.mem_cons_self)] at hcall
        cases hcall

/-- A text is refused exactly if a placeholder in it names no known function, and then for the
first one that does.  Any other text has one reading, which parsing answers; it calls a function
exactly if a placeholder for one stands in the text. -/
theorem parse_decomposes_or_refuses (text : String) :
    ((exists e, parse text = .error e) <->
      exists name, Calls text.toList name ∧ forall f : Function, f.name.toList ≠ name) ∧
    (forall e, parse text = .error e <-> FirstUnknown text.toList e.name.toList) ∧
    (forall t, parse text = .ok t <-> Reads text t) ∧
    (forall t t', Reads text t -> Reads text t' -> t = t') ∧
    forall t, parse text = .ok t -> (t.hasCalls = true <->
      exists f : Function, Segment.placeholder f.name.toList <:+: text.toList) := by
  constructor
  · exact exists_parse_eq_error_iff
  constructor
  · intro e
    exact parse_eq_error_iff
  constructor
  · intro t
    exact parse_eq_ok_iff
  constructor
  · intro t t' h h'
    have hparse := parse_eq_ok_iff.mpr h
    rw [parse_eq_ok_iff.mpr h'] at hparse
    cases hparse
    rfl
  · intro t h
    exact (parse_eq_ok_iff.mp h).hasCalls_iff

end Template
end Colloquy
