import Colloquy.Proofs.Workflow.Actions

/-!
# Loading of condition lists

A condition list is accepted exactly if it consists of well-shaped clauses and a default behind
them, and it is loaded as what they stand for.
-/

namespace Colloquy
namespace Workflow

open Yaml (Value)

/-!
# Bodies without tags

The lists in a body without tags have none either.
-/

/-- What one entry of a body cannot break, no body breaks. -/
theorem readFields_keeps {known : List String}
    {put : β -> String -> Value -> Except BodyError β} {p : β -> Prop}
    (hput : forall b name v b', p b -> v.IsPlain -> put b name v = .ok b' -> p b')
    {entries : List (Value × Value)} (hplain : forall e, e ∈ entries -> e.2.IsPlain)
    {seen : List String} {b b' : β} (hb : p b)
    (h : readFields known put seen b entries = .ok b') : p b' := by
  induction entries generalizing seen b with
  | nil =>
      cases h
      exact hb
  | cons e entries ih =>
      unfold readFields at h
      rcases bind_eq_ok_iff.mp h with ⟨name, _, h⟩
      dsimp only at h
      split at h
      · cases h
      · split at h
        · cases h
        · rcases bind_eq_ok_iff.mp h with ⟨b1, hb1, h⟩
          have hkept := hput _ _ _ _ hb (hplain e List.mem_cons_self) hb1
          exact ih (fun e he => hplain e (List.mem_cons_of_mem _ he)) hkept h

theorem isPlain_of_list {v : Value} {items : List Value} (hv : v.IsPlain)
    (h : Body.list v = .ok items) : forall w, w ∈ items -> w.IsPlain := by
  unfold Body.list at h
  rw [untagged_of_isPlain hv] at h
  cases hv with
  | sequence hitems =>
      cases h
      exact hitems
  | null =>
      cases h
      intro w hw
      cases hw
  | _ => cases h

theorem isPlain_of_entries {v : Value} {wanted : String} {entries : List (Value × Value)}
    (hv : v.IsPlain) (h : Body.entries wanted v = .ok entries) :
    forall e, e ∈ entries -> e.2.IsPlain := by
  unfold Body.entries at h
  rw [untagged_of_isPlain hv] at h
  cases hv with
  | mapping _ hvalues =>
      cases h
      exact hvalues
  | null =>
      cases h
      intro e he
      cases he
  | _ => cases h

theorem isPlain_of_ifBody {v : Value} {b : IfBody} (hv : v.IsPlain)
    (h : IfBody.ofValue v = .ok b) : forall w, w ∈ b.action -> w.IsPlain := by
  rcases bind_eq_ok_iff.mp h with ⟨entries, hentries, h⟩
  refine readFields_keeps (p := fun b => forall w, w ∈ b.action -> w.IsPlain) ?_
    (isPlain_of_entries hv hentries) (fun w hw => (List.not_mem_nil hw).elim) h
  intro b name v b' hb hv hput
  unfold IfBody.put at hput
  split at hput
  · rcases bind_eq_ok_iff.mp hput with ⟨s, _, hput⟩
    cases hput
    exact hb
  · split at hput
    · rcases bind_eq_ok_iff.mp hput with ⟨s, _, hput⟩
      cases hput
      exact hb
    · rcases bind_eq_ok_iff.mp hput with ⟨items, hitems, hput⟩
      cases hput
      exact isPlain_of_list hv hitems

theorem isPlain_of_defaultBody {v : Value} {b : DefaultBody} (hv : v.IsPlain)
    (h : DefaultBody.ofValue v = .ok b) : forall w, w ∈ b.action -> w.IsPlain := by
  rcases bind_eq_ok_iff.mp h with ⟨entries, hentries, h⟩
  refine readFields_keeps (p := fun b => forall w, w ∈ b.action -> w.IsPlain) ?_
    (isPlain_of_entries hv hentries) (fun w hw => (List.not_mem_nil hw).elim) h
  intro b name v b' _ hv hput
  rcases bind_eq_ok_iff.mp hput with ⟨items, hitems, hput⟩
  cases hput
  exact isPlain_of_list hv hitems

/-!
# Clauses
-/

theorem predicate_eq_ok_iff (index : Nat) {b : IfBody} {p : Predicate} :
    Load.predicate index b = .ok p <-> HasTest.Means b p := by
  unfold Load.predicate
  constructor
  · intro h
    split at h
    · cases h
      exact HasTest.Means.contains ‹_› ‹_›
    · split at h
      · cases h
        exact HasTest.Means.satisfies ‹_› ‹_› ‹_›
      · cases h
    · cases h
  · intro h
    cases h with
    | contains hneedle hnone => rw [hneedle, hnone]
    | satisfies hnone hsource hp =>
        rw [hnone, hsource]
        simp only [hp]

theorem hasTest_iff {b : IfBody} : HasTest b <-> exists p, HasTest.Means b p := by
  constructor
  · intro h
    cases h with
    | contains hneedle hnone => exact ⟨_, HasTest.Means.contains hneedle hnone⟩
    | satisfies hnone hsource hp => exact ⟨_, HasTest.Means.satisfies hnone hsource hp⟩
  · intro h
    rcases h with ⟨p, h⟩
    cases h with
    | contains hneedle hnone => exact HasTest.contains hneedle hnone
    | satisfies hnone hsource hp => exact HasTest.satisfies hnone hsource hp

theorem clause_eq_ok_iff {known : List String} (index : Nat) {body : Value} {c : Clause}
    (hbody : body.IsPlain) :
    Load.clause known index body = .ok c <->
      IfItem known (single "if" body) ∧ IfItem.Means (single "if" body) c := by
  unfold Load.clause
  constructor
  · intro h
    split at h
    · cases h
    · rename_i b hb
      rcases bind_eq_ok_iff.mp h with ⟨p, hp, h⟩
      rcases bind_eq_ok_iff.mp h with ⟨as, has, h⟩
      cases h
      have hmeans := (predicate_eq_ok_iff index).mp hp
      rcases (actions_eq_ok_iff (isPlain_of_ifBody hbody hb)).mp has with ⟨hlist, has⟩
      exact ⟨IfItem.intro hb (hasTest_iff.mpr ⟨p, hmeans⟩) hlist,
        IfItem.Means.intro hb hmeans has⟩
  · intro h
    rcases h with ⟨hitem, hmeans⟩
    cases hitem with
    | intro hb _ hlist =>
        cases hmeans with
        | intro hb' hp has =>
            rw [hb] at hb'
            cases hb'
            rw [hb]
            have hactions :=
              (actions_eq_ok_iff (isPlain_of_ifBody hbody hb)).mpr ⟨hlist, has⟩
            exact bind_eq_ok_iff.mpr ⟨_, (predicate_eq_ok_iff index).mpr hp,
              bind_eq_ok_iff.mpr ⟨_, hactions, rfl⟩⟩

theorem fallback_eq_ok_iff {known : List String} (index : Nat) {body : Value}
    {as : List Action} (hbody : body.IsPlain) :
    Load.fallback known index body = .ok as <->
      DefaultItem known (single "default" body) ∧
        DefaultItem.Means (single "default" body) as := by
  unfold Load.fallback
  constructor
  · intro h
    split at h
    · cases h
    · rename_i b hb
      rcases (actions_eq_ok_iff (isPlain_of_defaultBody hbody hb)).mp h with ⟨hlist, has⟩
      exact ⟨DefaultItem.intro hb hlist, DefaultItem.Means.intro hb has⟩
  · intro h
    rcases h with ⟨hitem, hmeans⟩
    cases hitem with
    | intro hb hlist =>
        cases hmeans with
        | intro hb' has =>
            rw [hb] at hb'
            cases hb'
            rw [hb]
            exact (actions_eq_ok_iff (isPlain_of_defaultBody hbody hb)).mpr ⟨hlist, has⟩

/-!
# Condition lists

By induction on the list, whose end is the default.
-/

theorem not_conditionList_nil (known : List String) : ¬ConditionList known [] := by
  intro h
  generalize hitems : ([] : List Value) = items at h
  cases h with
  | intro => simp at hitems

theorem not_conditionList_means_nil (c : Conditions) : ¬ConditionList.Means [] c := by
  intro h
  generalize hitems : ([] : List Value) = items at h
  cases h with
  | intro => simp at hitems

theorem conditionList_cons_iff {known : List String} {v : Value} {rest : List Value} :
    ConditionList known (v :: rest) <->
      (rest = [] ∧ DefaultItem known v) ∨ (IfItem known v ∧ ConditionList known rest) := by
  constructor
  · intro h
    generalize hitems : v :: rest = items at h
    cases h with
    | @intro clauses last hclauses hlast =>
        cases clauses with
        | nil =>
            cases hitems
            exact Or.inl ⟨rfl, hlast⟩
        | cons w clauses =>
            cases hitems
            exact Or.inr ⟨hclauses _ List.mem_cons_self,
              ConditionList.intro (fun v hv => hclauses v (List.mem_cons_of_mem _ hv)) hlast⟩
  · intro h
    rcases h with ⟨rfl, hlast⟩ | ⟨hv, hrest⟩
    · show ConditionList known ([] ++ [v])
      exact ConditionList.intro (fun v hv => (List.not_mem_nil hv).elim) hlast
    · cases hrest with
      | intro hclauses hlast =>
          rw [← List.cons_append]
          refine ConditionList.intro ?_ hlast
          exact List.forall_mem_cons.mpr ⟨hv, hclauses⟩

theorem conditionList_means_cons_iff {v : Value} {rest : List Value} {c : Conditions} :
    ConditionList.Means (v :: rest) c <->
      (rest = [] ∧ c.clauses = [] ∧ DefaultItem.Means v c.fallback) ∨
        exists first more, c = ⟨first :: more.clauses, more.fallback⟩ ∧
          IfItem.Means v first ∧ ConditionList.Means rest more := by
  constructor
  · intro h
    generalize hitems : v :: rest = items at h
    cases h with
    | @intro clauses last c hclauses hlast =>
        cases clauses with
        | nil =>
            cases hitems
            exact Or.inl ⟨rfl, List.forall₂_nil_left_iff.mp hclauses, hlast⟩
        | cons w clauses =>
            cases hitems
            rcases List.forall₂_cons_left_iff.mp hclauses with ⟨first, more, hfirst, hmore, hc⟩
            refine Or.inr ⟨first, ⟨more, c.fallback⟩, ?_, hfirst,
              ConditionList.Means.intro hmore hlast⟩
            rw [← hc]
  · intro h
    rcases h with ⟨rfl, hnone, hlast⟩ | ⟨first, more, rfl, hfirst, hmore⟩
    · show ConditionList.Means ([] ++ [v]) c
      refine ConditionList.Means.intro ?_ hlast
      rw [hnone]
      exact List.Forall₂.nil
    · cases hmore with
      | intro hclauses hlast =>
          rw [← List.cons_append]
          exact ConditionList.Means.intro (List.Forall₂.cons hfirst hclauses) hlast

theorem conditionsFrom_single_eq {known : List String} {index : Nat} {key : String}
    {body : Value} {rest : List Value} :
    Load.conditionsFrom known index (single key body :: rest) =
      if key == "if" then
        Load.clause known index body >>= fun c =>
          Load.conditionsFrom known (index + 1) rest >>= fun more =>
            .ok { more with clauses := c :: more.clauses }
      else if key == "default" then
        Load.fallback known index body >>= fun as =>
          if rest.isEmpty then .ok ⟨[], as⟩ else .error .defaultNotLast
      else .error (.malformedCondition index (.unknown key)) :=
  rfl

theorem ifItem_inv {known : List String} {v : Value} (h : IfItem known v) :
    exists body, v = single "if" body := by
  cases h with
  | @intro body => exact ⟨body, rfl⟩

theorem defaultItem_inv {known : List String} {v : Value} (h : DefaultItem known v) :
    exists body, v = single "default" body := by
  cases h with
  | @intro body => exact ⟨body, rfl⟩

theorem conditionsFrom_eq_ok_iff {known : List String} {items : List Value} {c : Conditions}
    (hplain : forall v, v ∈ items -> v.IsPlain) (index : Nat) :
    Load.conditionsFrom known index items = .ok c <->
      ConditionList known items ∧ ConditionList.Means items c := by
  induction items generalizing index c with
  | nil =>
      constructor
      · intro h
        cases h
      · intro h
        exact absurd h.left (not_conditionList_nil known)
  | cons v rest ih =>
      have hv := hplain v List.mem_cons_self
      have hrest : forall w, w ∈ rest -> w.IsPlain :=
        fun w hw => hplain w (List.mem_cons_of_mem _ hw)
      rw [conditionList_cons_iff, conditionList_means_cons_iff]
      constructor
      · intro h
        cases hentry : singleEntry? v with
        | none =>
            rw [Load.conditionsFrom, hentry] at h
            cases h
        | some entry =>
            rcases entry with ⟨key, body⟩
            have hsingle := (singleEntry?_eq_some_iff hv).mp hentry
            subst hsingle
            have hbody := isPlain_of_single hv
            rw [conditionsFrom_single_eq] at h
            split at h
            · rename_i hkey
              rw [beq_iff_eq.mp hkey]
              rcases bind_eq_ok_iff.mp h with ⟨first, hfirst, h⟩
              rcases bind_eq_ok_iff.mp h with ⟨more, hmore, h⟩
              cases h
              rcases (clause_eq_ok_iff index hbody).mp hfirst with ⟨hitem, hmeans⟩
              rcases (ih hrest _).mp hmore with ⟨hlist, hmeansRest⟩
              exact ⟨Or.inr ⟨hitem, hlist⟩, Or.inr ⟨first, more, rfl, hmeans, hmeansRest⟩⟩
            · split at h
              · rename_i hkey
                rw [beq_iff_eq.mp hkey]
                rcases bind_eq_ok_iff.mp h with ⟨as, has, h⟩
                split at h
                · rename_i hempty
                  cases h
                  have hnil := List.isEmpty_iff.mp hempty
                  rcases (fallback_eq_ok_iff index hbody).mp has with ⟨hitem, hmeans⟩
                  exact ⟨Or.inl ⟨hnil, hitem⟩, Or.inl ⟨hnil, rfl, hmeans⟩⟩
                · cases h
              · cases h
      · intro h
        rcases h with ⟨⟨rfl, hitem⟩ | ⟨hitem, hlist⟩, hmeans⟩
        · rcases defaultItem_inv hitem with ⟨body, rfl⟩
          have hbody := isPlain_of_single hv
          rcases hmeans with ⟨_, hnone, hlast⟩ | ⟨first, more, _, _, hmore⟩
          · rw [conditionsFrom_single_eq]
            refine bind_eq_ok_iff.mpr ⟨c.fallback,
              (fallback_eq_ok_iff index hbody).mpr ⟨hitem, hlast⟩, ?_⟩
            rw [← hnone]
            rfl
          · exact absurd hmore (not_conditionList_means_nil more)
        · rcases ifItem_inv hitem with ⟨body, rfl⟩
          have hbody := isPlain_of_single hv
          rcases hmeans with ⟨rfl, _, _⟩ | ⟨first, more, rfl, hfirst, hmore⟩
          · exact absurd hlist (not_conditionList_nil known)
          · rw [conditionsFrom_single_eq]
            exact bind_eq_ok_iff.mpr ⟨first, (clause_eq_ok_iff index hbody).mpr ⟨hitem, hfirst⟩,
              bind_eq_ok_iff.mpr ⟨more, (ih hrest _).mpr ⟨hlist, hmore⟩, rfl⟩⟩

theorem IfItem.exists_means {known : List String} {v : Value} (h : IfItem known v) :
    exists c, IfItem.Means v c := by
  cases h with
  | intro hb htest hlist =>
      rcases hasTest_iff.mp htest with ⟨p, hp⟩
      rcases hlist.exists_means with ⟨as, has⟩
      exact ⟨⟨p, as⟩, IfItem.Means.intro hb hp has⟩

theorem DefaultItem.exists_means {known : List String} {v : Value} (h : DefaultItem known v) :
    exists as, DefaultItem.Means v as := by
  cases h with
  | intro hb hlist =>
      rcases hlist.exists_means with ⟨as, has⟩
      exact ⟨as, DefaultItem.Means.intro hb has⟩

theorem ConditionList.exists_means {known : List String} {items : List Value}
    (h : ConditionList known items) : exists c, ConditionList.Means items c := by
  cases h with
  | intro hclauses hlast =>
      rcases exists_forall₂ fun v hv => (hclauses v hv).exists_means with ⟨cs, hcs⟩
      rcases hlast.exists_means with ⟨as, has⟩
      exact ⟨⟨cs, as⟩, ConditionList.Means.intro hcs has⟩

end Workflow
end Colloquy
