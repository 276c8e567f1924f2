import Colloquy.Proofs.Workflow.Loading
import Colloquy.Proofs.Workflow.Shapes
import Mathlib.Data.List.Nodup

/-!
# Rejected workflows

A document is accepted exactly if it passes all checks.  The error for any other one holds of the
place that it names, and everything before this place passes.
-/

namespace Colloquy
namespace Workflow

open Yaml (Value)

/-!
# Action lists

The items before a malformed one have been loaded, so they have accepted shapes.
-/

def LoadsAs (known : List String) (items : List Value) (as : List Action) : Prop :=
  List.Forall₂ (fun v a => exists index, Load.action known index v = .ok a) items as

section

variable {known : List String} {items : List Value} {as : List Action} {d : StateDocument}
  {e : StateError} {v : Value}

theorem loadsAs_of_actionsFrom {index : Nat} (h : Load.actionsFrom known index items = .ok as) :
    LoadsAs known items as := by
  induction items generalizing index as with
  | nil =>
      cases h
      exact List.Forall₂.nil
  | cons v items ih =>
      rcases bind_eq_ok_iff.mp h with ⟨a, ha, h⟩
      rcases bind_eq_ok_iff.mp h with ⟨more, hmore, h⟩
      cases h
      exact List.Forall₂.cons ⟨index, ha⟩ (ih hmore)

theorem LoadsAs.exists_action (h : LoadsAs known items as) (hv : v ∈ items) :
    exists index a, Load.action known index v = .ok a := by
  rcases exists_of_forall₂ h hv with ⟨a, index, ha⟩
  exact ⟨index, a, ha⟩

theorem firstTransfer_cons_zero : FirstTransfer (v :: items) 0 <-> HandsOn v := by
  constructor
  · rintro ⟨⟨w, hw, hhands⟩, _⟩
    cases hw
    exact hhands
  · intro h
    exact ⟨⟨v, rfl, h⟩, fun i w hi => absurd hi (Nat.not_lt_zero i)⟩

theorem firstTransfer_cons_succ {place : Nat} :
    FirstTransfer (v :: items) (place + 1) <-> ¬HandsOn v ∧ FirstTransfer items place := by
  constructor
  · rintro ⟨hstands, hfirst⟩
    refine ⟨hfirst 0 v (Nat.succ_pos place) rfl, hstands, fun i w hi hw => ?_⟩
    exact hfirst (i + 1) w (Nat.succ_lt_succ hi) hw
  · rintro ⟨hv, hstands, hfirst⟩
    refine ⟨hstands, fun i w hi hw => ?_⟩
    cases i with
    | zero =>
        cases hw
        exact hv
    | succ i => exact hfirst i w (Nat.lt_of_succ_lt_succ hi) hw

theorem LoadsAs.findIdx?_iff (h : LoadsAs known items as) {place : Nat} :
    as.findIdx? Action.isTransfer = some place <-> FirstTransfer items place := by
  unfold LoadsAs at h
  induction h generalizing place with
  | nil =>
      constructor
      · intro h
        cases h
      · rintro ⟨⟨v, hv, _⟩, _⟩
        cases hv
  | @cons v a items as hload hrest ih =>
      rcases hload with ⟨index, hload⟩
      have hhands := handsOn_iff hload
      rw [List.findIdx?_cons]
      cases place with
      | zero =>
          rw [firstTransfer_cons_zero, hhands]
          cases a.isTransfer <;> simp
      | succ place =>
          rw [firstTransfer_cons_succ, hhands, ← ih]
          cases a.isTransfer <;> simp

theorem LoadsAs.endsInTransfer_iff (h : LoadsAs known items as) :
    Load.endsInTransfer (some as) = true <-> exists v, items.getLast? = some v ∧ HandsOn v := by
  have hlast := getLast?_of_forall₂ h
  rw [Load.endsInTransfer, Option.bind_some]
  generalize items.getLast? = last at hlast
  generalize as.getLast? = lastAction at hlast
  cases hlast with
  | none => simp
  | some hload =>
      rcases hload with ⟨index, hload⟩
      simp [handsOn_iff hload]

theorem actions_eq_ok (h : Load.actions known items = .ok as) :
    LoadsAs known items as ∧ Load.afterTransfer? as = none := by
  rcases bind_eq_ok_iff.mp h with ⟨as', has, h⟩
  split at h
  · cases h
  · rename_i hnone
    cases h
    exact ⟨loadsAs_of_actionsFrom has, hnone⟩

theorem getElem?_append_length {front : List Value} :
    (front ++ v :: items)[front.length]? = some v := by
  rw [List.getElem?_append_right (Nat.le_refl _), Nat.sub_self]
  rfl

theorem action_error_holds {front : List Value} (hlist : d.HasList (front ++ v :: items))
    (hfront : forall w, w ∈ front -> exists s, Says w s)
    (h : Load.action known front.length v = .error e) : e.HoldsOf known d := by
  have hmem : v ∈ front ++ v :: items := List.mem_append_right front List.mem_cons_self
  rcases action_eq_error h with ⟨reason, hnone, hreason, rfl⟩ | ⟨s, hs, hload⟩
  · refine ⟨_, v, hlist, getElem?_append_length, hnone, hreason, ?_⟩
    rw [List.take_left]
    exact hfront
  · rcases load_eq_error hload with ⟨target, rfl, hknown, rfl⟩ | ⟨text, function, htext, hf, rfl⟩
    · exact ⟨hknown, _, v, hlist, hmem, hs⟩
    · exact ⟨_, v, s, text, hlist, hmem, hs, htext, hf⟩

/-- The induction over the items of a list, of which those in `front` have been loaded. -/
theorem actionsFrom_error_holds {front : List Value} (hlist : d.HasList (front ++ items))
    (hfront : forall w, w ∈ front -> exists s, Says w s)
    (h : Load.actionsFrom known front.length items = .error e) : e.HoldsOf known d := by
  induction items generalizing front with
  | nil => cases h
  | cons v items ih =>
      rcases bind_eq_error_iff.mp h with hv | ⟨a, ha, h⟩
      · exact action_error_holds hlist hfront hv
      · rcases bind_eq_error_iff.mp h with hmore | ⟨more, _, h⟩
        · refine @ih (front ++ [v]) ?_ ?_ ?_
          · rw [List.append_assoc]
            exact hlist
          · exact List.forall_mem_append.mpr
              ⟨hfront, List.forall_mem_singleton.mpr (exists_saying ha)⟩
          · rw [List.length_append]
            exact hmore
        · cases h

theorem actions_error_holds (hlist : d.HasList items) (h : Load.actions known items = .error e) :
    e.HoldsOf known d := by
  rcases bind_eq_error_iff.mp h with h | ⟨as, has, h⟩
  · rw [← List.nil_append items] at hlist
    exact actionsFrom_error_holds hlist (fun w hw => (List.not_mem_nil hw).elim) h
  · have hloads := loadsAs_of_actionsFrom has
    split at h
    · rename_i index hafter
      cases h
      unfold Load.afterTransfer? at hafter
      split at hafter
      · rename_i place hplace
        split at hafter
        · rename_i hmore
          cases hafter
          rw [← hloads.length_eq] at hmore
          exact ⟨items, place, hlist, hloads.findIdx?_iff.mp hplace, rfl, hmore⟩
        · cases hafter
      · cases hafter
    · cases h

end

/-!
# Condition lists
-/

section

variable {known : List String} {items : List Value} {d : StateDocument} {e : StateError}

theorem exists_clauses_of_conditionsFrom {index : Nat} {c : Conditions}
    (h : Load.conditionsFrom known index items = .ok c) :
    exists clauses last, items = clauses ++ [last] ∧
      (forall v, v ∈ clauses -> exists b as, IsClause v b ∧ HasTest b ∧
        Load.actions known b.action = .ok as) ∧
      exists b as, IsDefault last b ∧ Load.actions known b.action = .ok as := by
  induction items generalizing index c with
  | nil => cases h
  | cons v rest ih =>
      rcases condition_cases v with ⟨b, hclause⟩ | ⟨b, hdefault⟩ | ⟨reason, _, herror⟩
      · rw [conditionsFrom_of_isClause hclause] at h
        rcases bind_eq_ok_iff.mp h with ⟨p, hp, h⟩
        rcases bind_eq_ok_iff.mp h with ⟨as, has, h⟩
        rcases bind_eq_ok_iff.mp h with ⟨more, hmore, h⟩
        have htest := hasTest_iff.mpr ⟨p, (predicate_eq_ok_iff index).mp hp⟩
        rcases ih hmore with ⟨clauses, last, rfl, hclauses, hlast⟩
        exact ⟨v :: clauses, last, rfl,
          List.forall_mem_cons.mpr ⟨⟨b, as, hclause, htest, has⟩, hclauses⟩, hlast⟩
      · rw [conditionsFrom_of_isDefault hdefault] at h
        rcases bind_eq_ok_iff.mp h with ⟨as, has, h⟩
        split at h
        · rename_i hempty
          rw [List.isEmpty_iff.mp hempty]
          exact ⟨[], v, rfl, fun w hw => (List.not_mem_nil hw).elim, b, as, hdefault, has⟩
        · cases h
      · rw [herror] at h
        cases h

theorem conditionsFrom_error_holds {front : List Value} (hd : d.conditions = some (front ++ items))
    (hfront : forall v, v ∈ front -> exists b, IsClause v b ∧ HasTest b)
    (h : Load.conditionsFrom known front.length items = .error e) : e.HoldsOf known d := by
  -- The items in `front` are clauses.
  induction items generalizing front with
  | nil =>
      cases h
      rw [List.append_nil] at hd
      refine ⟨front, hd, fun v hv body => ?_⟩
      rcases hfront v hv with ⟨b, hclause, _⟩
      exact hclause.not_hasEntry_default
  | cons v rest ih =>
      have hmem : v ∈ front ++ v :: rest := List.mem_append_right front List.mem_cons_self
      have hshapes : forall w, w ∈ (front ++ v :: rest).take front.length -> IsCondition w := by
        rw [List.take_left]
        intro w hw
        rcases hfront w hw with ⟨b, hclause, htest⟩
        exact .clause hclause htest.isSome_ne
      rcases condition_cases v with ⟨b, hclause⟩ | ⟨b, hdefault⟩ | ⟨reason, hreason, herror⟩
      · rw [conditionsFrom_of_isClause hclause] at h
        rcases bind_eq_error_iff.mp h with hpredicate | ⟨p, hp, h⟩
        · rcases predicate_eq_error hpredicate with
            ⟨heq, rfl⟩ | ⟨pattern, reason, hcontains, hpattern, hreason, rfl⟩
          · have hreason : ConditionError.predicate.HoldsOf v := ⟨b, hclause, heq⟩
            exact ⟨_, v, hd, getElem?_append_length, not_isCondition_of_holdsOf hreason, hreason,
              hshapes⟩
          · exact ⟨_, v, b, hd, hmem, hclause, hcontains, hpattern, hreason⟩
        · rcases bind_eq_error_iff.mp h with hactions | ⟨as, _, h⟩
          · exact actions_error_holds (.clause hd hmem hclause) hactions
          · rcases bind_eq_error_iff.mp h with hmore | ⟨more, _, h⟩
            · refine @ih (front ++ [v]) ?_ ?_ ?_
              · rw [List.append_assoc]
                exact hd
              · have htest := hasTest_iff.mpr ⟨p, (predicate_eq_ok_iff front.length).mp hp⟩
                exact List.forall_mem_append.mpr
                  ⟨hfront, List.forall_mem_singleton.mpr ⟨b, hclause, htest⟩⟩
              · rw [List.length_append]
                exact hmore
            · cases h
      · rw [conditionsFrom_of_isDefault hdefault] at h
        rcases bind_eq_error_iff.mp h with hactions | ⟨as, _, h⟩
        · exact actions_error_holds (.fallback hd hmem hdefault) hactions
        · split at h
          · cases h
          · rename_i hmore
            cases h
            rcases hdefault with ⟨body, hentry, _⟩
            refine ⟨_, front.length, v, body, hd, getElem?_append_length, hentry, ?_⟩
            rw [List.length_append, List.length_cons]
            have hpos := List.length_pos_iff.mpr fun hnil => hmore (List.isEmpty_iff.mpr hnil)
            omega
      · rw [herror] at h
        cases h
        exact ⟨_, v, hd, getElem?_append_length, not_isCondition_of_holdsOf hreason, hreason,
          hshapes⟩

end

/-!
# States
-/

section

variable {known : List String} {items : List Value} {d : StateDocument} {s : State}
  {e : StateError}

theorem optional_eq_error {f : α -> Load.Check β} {a? : Option α}
    (h : Load.optional f a? = .error e) : exists a, a? = some a ∧ f a = .error e := by
  cases a? with
  | none => cases h
  | some a => exact ⟨a, rfl, map_eq_error_iff.mp h⟩

theorem loadsAs_of_entry {entry : Option (List Action)}
    (h : Load.optional (Load.actions known) d.action = .ok entry) (hd : d.action = some items) :
    exists as, entry = some as ∧ LoadsAs known items as := by
  rw [hd] at h
  rcases map_eq_ok_iff.mp h with ⟨as, has, rfl⟩
  exact ⟨as, rfl, (actions_eq_ok has).left⟩

theorem stateBody_error_holds (h : Load.stateBody known d = .error e) : e.HoldsOf known d := by
  rw [stateBody_eq] at h
  split at h
  · rename_i hnone
    cases h
    rw [Bool.and_eq_true, Option.isNone_iff_eq_none, Option.isNone_iff_eq_none] at hnone
    exact hnone
  · rename_i hbody
    rcases bind_eq_error_iff.mp h with haction | ⟨entry, hentry, h⟩
    · rcases optional_eq_error haction with ⟨items, hitems, herror⟩
      exact actions_error_holds (.entry hitems) herror
    rcases bind_eq_error_iff.mp h with hconditions | ⟨conditions, hconditions, h⟩
    · rcases optional_eq_error hconditions with ⟨items, hitems, herror⟩
      rw [← List.nil_append items] at hitems
      exact conditionsFrom_error_holds hitems (fun v hv => (List.not_mem_nil hv).elim) herror
    split at h
    · rename_i hfalls
      cases h
      rw [Bool.and_eq_true, isNone_of_rel (optional_eq_ok_iff.mp hconditions),
        Bool.not_eq_true'] at hfalls
      rcases hfalls with ⟨hnone, hends⟩
      cases haction : d.action with
      | none =>
          rw [haction, hnone] at hbody
          exact absurd rfl hbody
      | some items =>
          rcases loadsAs_of_entry hentry haction with ⟨as, rfl, hloads⟩
          refine ⟨hnone, items, haction, fun v hv hhands => ?_⟩
          rw [hloads.endsInTransfer_iff.mpr ⟨v, hv, hhands⟩] at hends
          cases hends
    · cases h

theorem exists_clauses_of_stateBody (h : Load.stateBody known d = .ok s)
    (hd : d.conditions = some items) :
    exists clauses last, items = clauses ++ [last] ∧
      (forall v, v ∈ clauses -> exists b as, IsClause v b ∧ HasTest b ∧
        Load.actions known b.action = .ok as) ∧
      exists b as, IsDefault last b ∧ Load.actions known b.action = .ok as := by
  have hconditions := (isLoadedAs_of_stateBody h).conditions
  rw [hd] at hconditions
  rcases map_eq_ok_iff.mp hconditions with ⟨c, hc, _⟩
  exact exists_clauses_of_conditionsFrom hc

theorem exists_actions_of_stateBody (h : Load.stateBody known d = .ok s) (hlist : d.HasList items) :
    exists as, Load.actions known items = .ok as := by
  cases hlist with
  | entry hd =>
      have hentry := (isLoadedAs_of_stateBody h).entry
      rw [hd] at hentry
      rcases map_eq_ok_iff.mp hentry with ⟨as, has, _⟩
      exact ⟨as, has⟩
  | @clause conditions v b hd hv hclause =>
      rcases exists_clauses_of_stateBody h hd with ⟨clauses, last, rfl, hclauses, _, _, hlast, _⟩
      rcases List.mem_append.mp hv with hv | hv
      · rcases hclauses v hv with ⟨b', as, hclause', _, has⟩
        rw [hclause.unique hclause']
        exact ⟨as, has⟩
      · rw [List.mem_singleton.mp hv] at hclause
        exact absurd hlast hclause.not_isDefault
  | @fallback conditions v b hd hv hdefault =>
      rcases exists_clauses_of_stateBody h hd with
        ⟨clauses, last, rfl, hclauses, b', as, hlast, has⟩
      rcases List.mem_append.mp hv with hv | hv
      · rcases hclauses v hv with ⟨b', _, hclause, _⟩
        exact absurd hdefault hclause.not_isDefault
      · rw [List.mem_singleton.mp hv] at hdefault
        rw [hdefault.unique hlast]
        exact ⟨as, has⟩

theorem exists_action_of_stateBody {v : Value} (h : Load.stateBody known d = .ok s)
    (hlist : d.HasList items) (hv : v ∈ items) :
    exists index a, Load.action known index v = .ok a := by
  rcases exists_actions_of_stateBody h hlist with ⟨as, has⟩
  exact (actions_eq_ok has).left.exists_action hv

theorem isCondition_of_stateBody {v : Value} (h : Load.stateBody known d = .ok s)
    (hd : d.conditions = some items) (hv : v ∈ items) : IsCondition v := by
  rcases exists_clauses_of_stateBody h hd with ⟨clauses, last, rfl, hclauses, b, _, hlast, _⟩
  rcases List.mem_append.mp hv with hv | hv
  · rcases hclauses v hv with ⟨b, _, hclause, htest, _⟩
    exact .clause hclause htest.isSome_ne
  · rw [List.mem_singleton.mp hv]
    exact .fallback hlast

theorem passes_of_stateBody (h : Load.stateBody known d = .ok s) : d.Passes known := by
  intro e he
  cases e with
  | missingBody =>
      rcases (isLoadedAs_of_stateBody h).body with haction | hconditions
      · exact haction he.left
      · exact hconditions he.right
  | malformedAction index reason =>
      rcases he with ⟨items, v, hlist, hv, _, hreason, _⟩
      rcases exists_action_of_stateBody h hlist (List.mem_of_getElem? hv) with ⟨index, a, ha⟩
      rw [action_of_holdsOf hreason] at ha
      cases ha
  | malformedCondition index reason =>
      rcases he with ⟨items, v, hd, hv, hnot, _⟩
      exact hnot (isCondition_of_stateBody h hd (List.mem_of_getElem? hv))
  | defaultNotLast =>
      rcases he with ⟨items, place, v, body, hd, hv, hentry, hmore⟩
      rcases exists_clauses_of_stateBody h hd with ⟨clauses, last, rfl, hclauses, _⟩
      rw [List.length_append, List.length_singleton] at hmore
      rw [List.getElem?_append_left (Nat.lt_of_add_lt_add_right hmore)] at hv
      rcases hclauses v (List.mem_of_getElem? hv) with ⟨b, _, hclause, _⟩
      exact hclause.not_hasEntry_default hentry
  | missingDefault =>
      rcases he with ⟨items, hd, hnone⟩
      rcases exists_clauses_of_stateBody h hd with ⟨clauses, last, rfl, _, _, _, hlast, _⟩
      rcases hlast with ⟨body, hentry, _⟩
      exact hnone last (List.mem_append_right _ List.mem_cons_self) body hentry
  | actionAfterTransfer index =>
      rcases he with ⟨items, place, hlist, hfirst, rfl, hmore⟩
      rcases exists_actions_of_stateBody h hlist with ⟨as, has⟩
      rcases actions_eq_ok has with ⟨hloads, hnone⟩
      rw [hloads.length_eq] at hmore
      rw [Load.afterTransfer?, hloads.findIdx?_iff.mpr hfirst] at hnone
      dsimp only at hnone
      rw [if_pos hmore] at hnone
      cases hnone
  | fallsThrough =>
      rcases he with ⟨hnone, items, haction, hlast⟩
      have hloaded := isLoadedAs_of_stateBody h
      have hrel := optional_eq_ok_iff.mp hloaded.conditions
      have hends := hloaded.wayOut (Option.isNone_iff_eq_none.mp ((isNone_of_rel hrel).mpr hnone))
      rcases loadsAs_of_entry hloaded.entry haction with ⟨as, hentry, hloads⟩
      rw [hentry] at hends
      rcases hloads.endsInTransfer_iff.mp hends with ⟨v, hv, hhands⟩
      exact hlast v hv hhands
  | unknownTarget target =>
      rcases he with ⟨hknown, items, v, hlist, hv, hsaying⟩
      rcases exists_action_of_stateBody h hlist hv with ⟨index, a, ha⟩
      rw [action_eq_load hsaying, load_of_unknownTarget hknown] at ha
      cases ha
  | unknownFunction function =>
      rcases he with ⟨items, v, s, text, hlist, hv, hsaying, htext, hunknown⟩
      rcases exists_action_of_stateBody h hlist hv with ⟨index, a, ha⟩
      rw [action_eq_load hsaying, load_of_unknownFunction htext hunknown] at ha
      cases ha
  | invalidPattern pattern reason =>
      rcases he with ⟨items, v, b, hd, hv, hclause, _, hpattern, hreason⟩
      rcases exists_clauses_of_stateBody h hd with ⟨clauses, last, rfl, hclauses, _, _, hlast, _⟩
      rcases List.mem_append.mp hv with hv | hv
      · rcases hclauses v hv with ⟨b', _, hclause', htest, _⟩
        rw [← hclause.unique hclause'] at htest
        exact htest.compiles hpattern hreason
      · rw [List.mem_singleton.mp hv] at hclause
        exact hclause.not_isDefault hlast

end

/-!
# Agents
-/

section

variable {d : Document} {a : AgentDocument} {before : List AgentDocument} {e : LoadError}

theorem two_le_count_of_firstRepeated {seen names : List String} {name : String}
    (h : firstRepeated seen names = some name) :
    1 <= names.count name ∧ (name ∉ seen -> 2 <= names.count name) := by
  induction names generalizing seen with
  | nil => cases h
  | cons first names ih =>
      rw [firstRepeated] at h
      split at h
      · rename_i hseen
        cases h
        rw [List.contains_iff_mem] at hseen
        rw [List.count_cons_self]
        exact ⟨Nat.le_add_left 1 _, fun hnew => absurd hseen hnew⟩
      · rcases ih h with ⟨hone, htwo⟩
        by_cases hfirst : name = first
        · rw [hfirst, List.count_cons_self]
          rw [hfirst] at hone
          exact ⟨Nat.le_add_left 1 _, fun _ => Nat.succ_le_succ hone⟩
        · rw [List.count_cons_of_ne (Ne.symm hfirst)]
          refine ⟨hone, fun hnew => htwo ?_⟩
          rw [List.mem_cons, not_or]
          exact ⟨hfirst, hnew⟩

theorem stateBody_of_state_error {agent : String} {known : List String} {s : StateDocument}
    (h : Load.state agent known s = .error e) :
    exists e', e = .inState agent s.name e' ∧ Load.stateBody known s = .error e' := by
  unfold Load.state at h
  split at h
  · cases h
  · rename_i e' herror
    cases h
    exact ⟨e', rfl, herror⟩

theorem passes_of_state {agent : String} {known : List String} {s : StateDocument} {state : State}
    (h : Load.state agent known s = .ok state) : s.Passes known := by
  unfold Load.state at h
  split at h
  · rename_i hstate
    exact passes_of_stateBody hstate
  · cases h

theorem agent_error_holds (hreach : d.Reaches before a) (h : Load.agent a = .error e) :
    e.HoldsOf d := by
  rw [agent_eq] at h
  split at h
  · rename_i hempty
    cases h
    exact ⟨before, a, hreach, rfl, List.isEmpty_iff.mp hempty⟩
  · split at h
    · rename_i name hrepeated
      cases h
      have hcount := (two_le_count_of_firstRepeated hrepeated).right List.not_mem_nil
      exact ⟨before, a, hreach, rfl, hcount⟩
    · rcases bind_eq_error_iff.mp h with hstates | ⟨states, _, h⟩
      · rcases mapM_eq_error hstates with ⟨earlier, s, hprefix, herror, hearlier⟩
        rcases stateBody_of_state_error herror with ⟨e', rfl, hstate⟩
        refine ⟨before, a, earlier, s, hreach, rfl, hprefix, rfl, fun s' hs' => ?_,
          stateBody_error_holds hstate⟩
        rcases hearlier s' hs' with ⟨state, hloaded⟩
        exact passes_of_state hloaded
      · cases h

theorem passes_of_agent {agent : Agent} (h : Load.agent a = .ok agent) : a.Passes := by
  rw [agent_eq] at h
  split at h
  · cases h
  · rename_i hinhabited
    split at h
    · cases h
    · rename_i hnone
      rcases bind_eq_ok_iff.mp h with ⟨states, hstates, _⟩
      refine ⟨fun hnil => hinhabited (List.isEmpty_iff.mpr hnil),
        (firstRepeated_eq_none_iff.mp hnone).left, fun s hs => ?_⟩
      rcases exists_of_forall₂ (mapM_eq_ok_iff.mp hstates) hs with ⟨state, hstate⟩
      exact passes_of_state hstate

/-!
# Documents

By induction on the agents: those before the first one that is refused pass.
-/

theorem passes_of_agentsFrom {seen : List String} {ds : List AgentDocument} {agents : List Agent}
    (h : Load.agentsFrom seen ds = .ok agents) :
    firstRepeated seen (ds.map AgentDocument.name) = none ∧ forall a, a ∈ ds -> a.Passes := by
  induction ds generalizing seen agents with
  | nil => exact ⟨rfl, fun a ha => (List.not_mem_nil ha).elim⟩
  | cons a ds ih =>
      rw [agentsFrom_cons_eq] at h
      split at h
      · cases h
      · rename_i hseen
        rcases bind_eq_ok_iff.mp h with ⟨agent, hagent, h⟩
        rcases bind_eq_ok_iff.mp h with ⟨more, hmore, _⟩
        rcases ih hmore with ⟨hnone, hpass⟩
        rw [List.map_cons, firstRepeated, if_neg hseen]
        exact ⟨hnone, List.forall_mem_cons.mpr ⟨passes_of_agent hagent, hpass⟩⟩

theorem agentsFrom_error_holds {rest : List AgentDocument} {seen : List String}
    (hd : d.agents = before ++ rest)
    (hseen : forall name, name ∈ seen <-> name ∈ before.map AgentDocument.name)
    (hdistinct : (before.map AgentDocument.name).Nodup)
    (hpassed : forall b, b ∈ before -> b.Passes)
    (h : Load.agentsFrom seen rest = .error e) : e.HoldsOf d := by
  -- The agents in `before` have been loaded.
  induction rest generalizing before seen with
  | nil => cases h
  | cons a rest ih =>
      have hreach : d.Reaches before a := by
        refine ⟨⟨rest, ?_⟩, hdistinct, hpassed⟩
        rw [hd, List.append_assoc]
        rfl
      rw [agentsFrom_cons_eq] at h
      split at h
      · rename_i hold
        cases h
        rw [List.contains_iff_mem, hseen] at hold
        refine ⟨?_, before, a, hreach, rfl, hold⟩
        rw [hd, List.map_append, List.count_append, List.map_cons, List.count_cons_self]
        have hpos := List.count_pos_iff.mpr hold
        omega
      · rename_i hnew
        rw [List.contains_iff_mem, hseen] at hnew
        rcases bind_eq_error_iff.mp h with hagent | ⟨agent, hagent, h⟩
        · exact agent_error_holds hreach hagent
        · rcases bind_eq_error_iff.mp h with hmore | ⟨more, _, h⟩
          · refine @ih (before ++ [a]) _ ?_ (fun name => ?_) ?_ ?_ hmore
            · rw [hd, List.append_assoc]
              rfl
            · rw [List.mem_cons, hseen, List.map_append, List.mem_append, List.map_singleton,
                List.mem_singleton, or_comm]
            · rw [List.map_append, List.nodup_append]
              refine ⟨hdistinct, List.nodup_singleton _, fun name hname name' hname' heq => ?_⟩
              rw [List.map_singleton, List.mem_singleton] at hname'
              rw [heq, hname'] at hname
              exact hnew hname
            · intro b hb
              rcases List.mem_append.mp hb with hb | hb
              · exact hpassed b hb
              · rw [List.mem_singleton.mp hb]
                exact passes_of_agent hagent
          · cases h

theorem ofDocument_error_holds (h : Program.ofDocument d = .error e) : e.HoldsOf d := by
  rw [ofDocument_eq] at h
  split at h
  · rename_i hempty
    cases h
    exact List.isEmpty_iff.mp hempty
  · rcases bind_eq_error_iff.mp h with hagents | ⟨agents, _, h⟩
    · have hd : d.agents = [] ++ d.agents := rfl
      exact agentsFrom_error_holds hd (fun _ => Iff.rfl) List.nodup_nil
        (fun b hb => (List.not_mem_nil hb).elim) hagents
    · cases h

theorem passes_of_ofDocument {p : Program} (h : Program.ofDocument d = .ok p) : d.Passes := by
  rw [ofDocument_eq] at h
  split at h
  · cases h
  · rename_i hinhabited
    rcases bind_eq_ok_iff.mp h with ⟨agents, hagents, _⟩
    rcases passes_of_agentsFrom hagents with ⟨hnone, hpass⟩
    exact ⟨fun hnil => hinhabited (List.isEmpty_iff.mpr hnil),
      (firstRepeated_eq_none_iff.mp hnone).left, hpass⟩

theorem Document.Reaches.mem (h : d.Reaches before a) : a ∈ d.agents :=
  h.declared.subset (List.mem_append_right before List.mem_cons_self)

theorem Document.Passes.not_holdsOf (h : d.Passes) : ¬e.HoldsOf d := by
  intro he
  cases e with
  | unreadable path reason => exact he
  | yaml error => exact he
  | noAgents => exact h.inhabited he
  | duplicateAgent name =>
      have hone := List.nodup_iff_count_le_one.mp h.distinct name
      exact absurd (Nat.le_trans he.left hone) (by decide)
  | emptyAgent name =>
      rcases he with ⟨before, a, hreach, _, hempty⟩
      exact (h.agents a hreach.mem).inhabited hempty
  | duplicateState agent state =>
      rcases he with ⟨before, a, hreach, _, hcount⟩
      have hone := List.nodup_iff_count_le_one.mp (h.agents a hreach.mem).distinct state
      exact absurd (Nat.le_trans hcount hone) (by decide)
  | inState agent state e =>
      rcases he with ⟨before, a, earlier, s, hreach, _, hprefix, _, _, he⟩
      have hs := hprefix.subset (List.mem_append_right earlier List.mem_cons_self)
      exact (h.agents a hreach.mem).states s hs e he

end

/-- Every rejection tells the truth.  The error that a document is rejected with holds of the
agent, the state and the item that it names, and all agents before that agent pass all checks, as
do all states before that state.  Documents that pass are the ones that are accepted; a text
that is no document at all is rejected as such. -/
theorem rejections_are_truthful :
    (forall (d : Document) e, Program.ofDocument d = .error e -> e.HoldsOf d) ∧
      (forall d : Document, (exists p, Program.ofDocument d = .ok p) <-> d.Passes) ∧
      forall text e, Program.ofText text = .error e ->
        (exists e', Document.ofText text = .error e' ∧ e = .yaml e') ∨
          exists d, Document.ofText text = .ok d ∧ e.HoldsOf d := by
  refine ⟨fun d e h => ofDocument_error_holds h, fun d => ⟨?_, fun hpass => ?_⟩, fun text e h => ?_⟩
  · rintro ⟨p, h⟩
    exact passes_of_ofDocument h
  · cases h : Program.ofDocument d with
    | ok p => exact ⟨p, rfl⟩
    | error e => exact absurd (ofDocument_error_holds h) hpass.not_holdsOf
  · unfold Program.ofText at h
    split at h
    · rename_i e' herror
      cases h
      exact Or.inl ⟨e', herror, rfl⟩
    · rename_i d hd
      exact Or.inr ⟨d, hd, ofDocument_error_holds h⟩

/-- A document with many faults: the second state of the second agent goes on behind a `goto`, says
a word that is no action and has no default, and the third agent is the second one over again. -/
def tangled : Document where
  agents := [
    { name := "writer"
      states := [{ name := "start", action := some [.string "end"] }] },
    { name := "critic"
      states := [
        { name := "start", action := some [single "goto" (.string "talk")] },
        { name := "talk"
          action := some [.tagged "then" (single "goto" (.string "start")), .string "stop",
            single "message" (.string "\x7bshell()\x7d")]
          conditions := some [] },
        { name := "rest" }] },
    { name := "critic" }]

/-- The word is reported, and the agent and the state before it pass. -/
theorem tangled_rejected :
    exists e, Program.ofDocument tangled = .error e ∧ e.HoldsOf tangled ∧
      e.message = "State 'critic.talk' has a malformed action at index 1: " ++
        "unknown action \x60stop\x60" := by
  have hmessage : (match Program.ofDocument tangled with
      | .ok _ => ""
      | .error e => e.message) = "State 'critic.talk' has a malformed action at index 1: " ++
        "unknown action \x60stop\x60" := by
    decide +kernel
  cases h : Program.ofDocument tangled with
  | ok p =>
      rw [h] at hmessage
      dsimp only at hmessage
      exact absurd hmessage (by decide)
  | error e =>
      rw [h] at hmessage
      exact ⟨e, rfl, rejections_are_truthful.left tangled e h, hmessage⟩

end Workflow
end Colloquy
