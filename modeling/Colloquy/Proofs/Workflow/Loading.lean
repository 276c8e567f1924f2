import Colloquy.Proofs.Workflow.Conditions

/-!
# Loading of workflow documents

A document is accepted exactly if it is grammatical, and the program that it is loaded as is
the one that it means.
-/

namespace Colloquy
namespace Workflow

open Yaml (Value)

/-!
# States

A state is loaded by a row of checks.  What follows from all of them is stated once, with a
name for each part.
-/

theorem optional_eq_ok_iff {f : α -> Load.Check β} {a? : Option α} {b? : Option β} :
    Load.optional f a? = .ok b? <-> Option.Rel (fun a b => f a = .ok b) a? b? := by
  cases a? with
  | none =>
      constructor
      · intro h
        cases h
        exact Option.Rel.none
      · intro h
        cases h
        rfl
  | some a =>
      constructor
      · intro h
        rcases map_eq_ok_iff.mp h with ⟨b, hb, rfl⟩
        exact Option.Rel.some hb
      · intro h
        cases h with
        | some hb => exact map_eq_ok_iff.mpr ⟨_, hb, rfl⟩

theorem optional_eq_ok_iff_means {f : List Value -> Load.Check β}
    {shaped : List Value -> Prop} {means : List Value -> β -> Prop}
    {items? : Option (List Value)} {b? : Option β}
    (hf : forall items b, items? = some items ->
      (f items = .ok b <-> shaped items ∧ means items b)) :
    Load.optional f items? = .ok b? <->
      (forall items, items? = some items -> shaped items) ∧ Option.Rel means items? b? := by
  rw [optional_eq_ok_iff]
  constructor
  · intro h
    cases h with
    | none =>
        refine ⟨?_, Option.Rel.none⟩
        intro items hitems
        cases hitems
    | some hb =>
        rcases (hf _ _ rfl).mp hb with ⟨hshaped, hmeans⟩
        refine ⟨?_, Option.Rel.some hmeans⟩
        intro items hitems
        cases hitems
        exact hshaped
  · intro h
    rcases h with ⟨hshaped, hmeans⟩
    cases hmeans with
    | none => exact Option.Rel.none
    | some hmeans => exact Option.Rel.some ((hf _ _ rfl).mpr ⟨hshaped _ rfl, hmeans⟩)

theorem getLast?_of_forall₂ {r : α -> β -> Prop} {as : List α} {bs : List β}
    (h : List.Forall₂ r as bs) : Option.Rel r as.getLast? bs.getLast? := by
  have hreverse := List.forall₂_reverse_iff.mpr h
  rw [List.getLast?_eq_head?_reverse, List.getLast?_eq_head?_reverse]
  generalize as.reverse = as' at hreverse
  generalize bs.reverse = bs' at hreverse
  cases hreverse with
  | nil => exact Option.Rel.none
  | cons hab _ => exact Option.Rel.some hab

theorem endsInTransfer_iff {items? : Option (List Value)} {actions? : Option (List Action)}
    (h : Option.Rel ActionList.Means items? actions?) :
    Load.endsInTransfer actions? = true <->
      exists items last,
        items? = some items ∧ items.getLast? = some last ∧ IsTransferItem last := by
  cases h with
  | none => simp [Load.endsInTransfer]
  | @some items actions hmeans =>
      have hlast := getLast?_of_forall₂ hmeans
      simp only [Load.endsInTransfer, Option.bind_some, Option.some.injEq, exists_and_left,
        exists_eq_left']
      generalize items.getLast? = last at hlast
      generalize actions.getLast? = lastAction at hlast
      cases hlast with
      | none => simp
      | some hitem =>
          rw [Option.map_some, Option.getD_some, ← isTransferItem_iff hitem]
          simp

theorem stateBody_eq (known : List String) (d : StateDocument) :
    Load.stateBody known d =
      if d.action.isNone && d.conditions.isNone then .error .missingBody
      else
        Load.optional (Load.actions known) d.action >>= fun entry =>
          Load.optional (Load.conditionsFrom known 0) d.conditions >>= fun conditions =>
            if conditions.isNone && !Load.endsInTransfer entry then .error .fallsThrough
            else
              .ok { name := d.name, model := d.model, entry := entry, conditions := conditions } :=
  rfl

theorem isNone_of_rel {r : α -> β -> Prop} {a? : Option α} {b? : Option β}
    (h : Option.Rel r a? b?) : b?.isNone = true <-> a? = none := by
  cases h <;> simp

/-- All parts of the document are loaded as those of the state. -/
structure StateDocument.IsLoadedAs (known : List String) (d : StateDocument) (s : State) :
    Prop where
  body : d.action ≠ none ∨ d.conditions ≠ none
  name : s.name = d.name
  model : s.model = d.model
  entry : Load.optional (Load.actions known) d.action = .ok s.entry
  conditions : Load.optional (Load.conditionsFrom known 0) d.conditions = .ok s.conditions
  wayOut : s.conditions = none -> Load.endsInTransfer s.entry = true

theorem isLoadedAs_of_stateBody {known : List String} {d : StateDocument} {s : State}
    (h : Load.stateBody known d = .ok s) : d.IsLoadedAs known s := by
  rw [stateBody_eq] at h
  split at h
  · cases h
  · rename_i hbody
    rcases bind_eq_ok_iff.mp h with ⟨entry, hentry, h⟩
    rcases bind_eq_ok_iff.mp h with ⟨conditions, hconditions, h⟩
    split at h
    · cases h
    · rename_i hway
      cases h
      refine ⟨?_, rfl, rfl, hentry, hconditions, ?_⟩
      · rw [Bool.and_eq_true, Option.isNone_iff_eq_none, Option.isNone_iff_eq_none] at hbody
        exact not_and_or.mp hbody
      · intro hnone
        have hnone : conditions = none := hnone
        rw [hnone] at hway
        simpa using hway

theorem stateBody_eq_ok_iff {known : List String} {d : StateDocument} {s : State}
    (hd : d.IsPlain) :
    Load.stateBody known d = .ok s <-> d.IsGrammatical known ∧ d.Means s := by
  have hactions : forall items as, d.action = some items ->
      (Load.actions known items = .ok as <-> ActionList known items ∧ ActionList.Means items as) :=
    fun items as hitems => actions_eq_ok_iff (hd items (Or.inl hitems))
  have hconditions : forall items c, d.conditions = some items ->
      (Load.conditionsFrom known 0 items = .ok c <->
        ConditionList known items ∧ ConditionList.Means items c) :=
    fun items c hitems => conditionsFrom_eq_ok_iff (hd items (Or.inr hitems)) 0
  constructor
  · intro h
    have hloaded := isLoadedAs_of_stateBody h
    rcases (optional_eq_ok_iff_means hactions).mp hloaded.entry with ⟨hlists, hmeans⟩
    rcases (optional_eq_ok_iff_means hconditions).mp hloaded.conditions with
      ⟨hcondlists, hcondmeans⟩
    refine ⟨⟨hloaded.body, hlists, hcondlists, ?_⟩,
      ⟨hloaded.name, hloaded.model, hmeans, hcondmeans⟩⟩
    intro hnone
    have hway := (isNone_of_rel hcondmeans).mpr hnone
    exact (endsInTransfer_iff hmeans).mp (hloaded.wayOut (Option.isNone_iff_eq_none.mp hway))
  · intro h
    rw [stateBody_eq]
    rcases h with ⟨hgram, hmeans⟩
    have hbody : ¬(d.action.isNone && d.conditions.isNone) = true := by
      intro hnone
      rw [Bool.and_eq_true, Option.isNone_iff_eq_none, Option.isNone_iff_eq_none] at hnone
      rcases hgram.body with h | h
      · exact h hnone.left
      · exact h hnone.right
    have hway : ¬(s.conditions.isNone && !Load.endsInTransfer s.entry) = true := by
      intro hnone
      rw [Bool.and_eq_true, isNone_of_rel hmeans.conditions] at hnone
      have hends := (endsInTransfer_iff hmeans.entry).mpr (hgram.wayOut hnone.left)
      rw [hends] at hnone
      cases hnone.right
    rw [if_neg hbody]
    refine bind_eq_ok_iff.mpr ⟨s.entry,
      (optional_eq_ok_iff_means hactions).mpr ⟨hgram.action, hmeans.entry⟩, ?_⟩
    refine bind_eq_ok_iff.mpr ⟨s.conditions,
      (optional_eq_ok_iff_means hconditions).mpr ⟨hgram.conditions, hmeans.conditions⟩, ?_⟩
    rw [if_neg hway, ← hmeans.name, ← hmeans.model]

theorem StateDocument.IsGrammatical.exists_means {known : List String} {d : StateDocument}
    (h : d.IsGrammatical known) : exists s, d.Means s := by
  have hentry : exists entry, Option.Rel ActionList.Means d.action entry := by
    cases hitems : d.action with
    | none => exact ⟨none, Option.Rel.none⟩
    | some items =>
        rcases (h.action items hitems).exists_means with ⟨as, has⟩
        exact ⟨some as, Option.Rel.some has⟩
  have hconditions : exists conditions, Option.Rel ConditionList.Means d.conditions conditions := by
    cases hitems : d.conditions with
    | none => exact ⟨none, Option.Rel.none⟩
    | some items =>
        rcases (h.conditions items hitems).exists_means with ⟨c, hc⟩
        exact ⟨some c, Option.Rel.some hc⟩
  rcases hentry with ⟨entry, hentry⟩
  rcases hconditions with ⟨conditions, hconditions⟩
  exact ⟨⟨d.name, d.model, entry, conditions⟩, ⟨rfl, rfl, hentry, hconditions⟩⟩

theorem state_eq_ok_iff {name : String} {known : List String} {d : StateDocument} {s : State}
    (hd : d.IsPlain) :
    Load.state name known d = .ok s <-> d.IsGrammatical known ∧ d.Means s := by
  rw [← stateBody_eq_ok_iff hd, Load.state]
  cases Load.stateBody known d with
  | ok s' => simp
  | error e => simp

/-!
# Agents

The names of the states are compared first, and the states are then loaded with all of them
known.
-/

theorem firstRepeated_eq_none_iff {seen names : List String} :
    firstRepeated seen names = none <->
      names.Nodup ∧ forall name, name ∈ names -> name ∉ seen := by
  induction names generalizing seen with
  | nil => simp [firstRepeated]
  | cons name names ih =>
      rw [firstRepeated, List.nodup_cons, List.forall_mem_cons]
      by_cases hseen : name ∈ seen
      · simp [hseen]
      · rw [if_neg (by simpa using hseen), ih]
        constructor
        · intro h
          rcases h with ⟨hnodup, hrest⟩
          refine ⟨⟨?_, hnodup⟩, hseen, ?_⟩
          · intro hname
            exact hrest name hname List.mem_cons_self
          · intro other hother hmem
            exact hrest other hother (List.mem_cons_of_mem name hmem)
        · intro h
          rcases h with ⟨⟨hname, hnodup⟩, _, hrest⟩
          refine ⟨hnodup, ?_⟩
          intro other hother hmem
          rcases List.mem_cons.mp hmem with rfl | hmem
          · exact hname hother
          · exact hrest other hother hmem

theorem agent_eq (d : AgentDocument) :
    Load.agent d =
      if d.states.isEmpty then .error (.emptyAgent d.name)
      else
        match firstRepeated [] (d.states.map StateDocument.name) with
        | some name => .error (.duplicateState d.name name)
        | none =>
            d.states.mapM (Load.state d.name (d.states.map StateDocument.name)) >>= fun states =>
              .ok ⟨d.name, states⟩ := by
  rw [Load.agent]
  cases d.states with
  | nil => rfl
  | cons s states =>
      cases h : firstRepeated [] ((s :: states).map StateDocument.name) with
      | none => simp only [List.isEmpty_cons, h]; rfl
      | some name => simp only [List.isEmpty_cons, h]; rfl

theorem agent_eq_ok_iff {d : AgentDocument} {a : Agent}
    (hd : forall s, s ∈ d.states -> s.IsPlain) :
    Load.agent d = .ok a <-> d.IsGrammatical ∧ d.Means a := by
  have hstates : forall states,
      d.states.mapM (Load.state d.name (d.states.map StateDocument.name)) = .ok states <->
        (forall s, s ∈ d.states -> s.IsGrammatical (d.states.map StateDocument.name)) ∧
          List.Forall₂ StateDocument.Means d.states states := by
    intro states
    rw [mapM_eq_ok_iff]
    exact forall₂_iff_shaped fun s hs _ => state_eq_ok_iff (hd s hs)
  rw [agent_eq]
  constructor
  · intro h
    split at h
    · cases h
    · rename_i hinhabited
      split at h
      · cases h
      · rename_i hnone
        rcases bind_eq_ok_iff.mp h with ⟨states, hload, h⟩
        cases h
        rcases (hstates states).mp hload with ⟨hgram, hmeans⟩
        refine ⟨⟨?_, (firstRepeated_eq_none_iff.mp hnone).left, hgram⟩, ⟨rfl, hmeans⟩⟩
        intro hnil
        exact hinhabited (List.isEmpty_iff.mpr hnil)
  · intro h
    rcases h with ⟨hgram, hmeans⟩
    have hnone : firstRepeated [] (d.states.map StateDocument.name) = none :=
      firstRepeated_eq_none_iff.mpr ⟨hgram.distinct, fun _ _ => List.not_mem_nil⟩
    rw [if_neg (fun hempty => hgram.inhabited (List.isEmpty_iff.mp hempty)), hnone]
    refine bind_eq_ok_iff.mpr ⟨a.states, (hstates a.states).mpr ⟨hgram.states, hmeans.states⟩, ?_⟩
    rw [← hmeans.name]

theorem AgentDocument.IsGrammatical.exists_means {d : AgentDocument} (h : d.IsGrammatical) :
    exists a, d.Means a := by
  rcases exists_forall₂ fun s hs => (h.states s hs).exists_means with ⟨states, hstates⟩
  exact ⟨⟨d.name, states⟩, ⟨rfl, hstates⟩⟩

/-!
# Documents
-/

theorem agentsFrom_cons_eq (seen : List String) (d : AgentDocument) (rest : List AgentDocument) :
    Load.agentsFrom seen (d :: rest) =
      if seen.contains d.name then .error (.duplicateAgent d.name)
      else
        Load.agent d >>= fun a =>
          Load.agentsFrom (d.name :: seen) rest >>= fun more => .ok (a :: more) :=
  rfl

theorem agentsFrom_eq_ok_iff {seen : List String} {ds : List AgentDocument} {as : List Agent}
    (hplain : forall d, d ∈ ds -> forall s, s ∈ d.states -> s.IsPlain) :
    Load.agentsFrom seen ds = .ok as <->
      firstRepeated seen (ds.map AgentDocument.name) = none ∧
        (forall d, d ∈ ds -> d.IsGrammatical) ∧ List.Forall₂ AgentDocument.Means ds as := by
  induction ds generalizing seen as with
  | nil =>
      constructor
      · intro h
        cases h
        exact ⟨rfl, fun d hd => (List.not_mem_nil hd).elim, List.Forall₂.nil⟩
      · intro h
        cases h.right.right
        rfl
  | cons d ds ih =>
      have hd : forall s, s ∈ d.states -> s.IsPlain := hplain d List.mem_cons_self
      have hrest : forall e, e ∈ ds -> forall s, s ∈ e.states -> s.IsPlain :=
        fun e he => hplain e (List.mem_cons_of_mem _ he)
      rw [agentsFrom_cons_eq, List.map_cons, firstRepeated, List.forall_mem_cons,
        List.forall₂_cons_left_iff]
      constructor
      · intro h
        split at h
        · cases h
        · rename_i hseen
          rcases bind_eq_ok_iff.mp h with ⟨a, ha, h⟩
          rcases bind_eq_ok_iff.mp h with ⟨more, hmore, h⟩
          cases h
          rcases (agent_eq_ok_iff hd).mp ha with ⟨hgram, hmeans⟩
          rcases (ih hrest).mp hmore with ⟨hnone, hgramRest, hmeansRest⟩
          rw [if_neg hseen]
          exact ⟨hnone, ⟨hgram, hgramRest⟩, a, more, hmeans, hmeansRest, rfl⟩
      · intro h
        rcases h with ⟨hnone, ⟨hgram, hgramRest⟩, a, more, hmeans, hmeansRest, rfl⟩
        split at hnone
        · cases hnone
        · rename_i hseen
          rw [if_neg hseen]
          exact bind_eq_ok_iff.mpr ⟨a, (agent_eq_ok_iff hd).mpr ⟨hgram, hmeans⟩,
            bind_eq_ok_iff.mpr ⟨more, (ih hrest).mpr ⟨hnone, hgramRest, hmeansRest⟩, rfl⟩⟩

theorem ofDocument_eq (d : Document) :
    Program.ofDocument d =
      if d.agents.isEmpty then .error .noAgents
      else Load.agentsFrom [] d.agents >>= fun agents => .ok ⟨agents⟩ :=
  rfl

theorem ofDocument_eq_ok_iff {d : Document} {p : Program} (hd : d.IsPlain) :
    Program.ofDocument d = .ok p <-> d.IsGrammatical ∧ d.Means p := by
  rw [ofDocument_eq]
  constructor
  · intro h
    split at h
    · cases h
    · rename_i hinhabited
      rcases bind_eq_ok_iff.mp h with ⟨agents, hload, h⟩
      cases h
      rcases (agentsFrom_eq_ok_iff hd).mp hload with ⟨hnone, hgram, hmeans⟩
      refine ⟨⟨?_, (firstRepeated_eq_none_iff.mp hnone).left, hgram⟩, hmeans⟩
      intro hnil
      exact hinhabited (List.isEmpty_iff.mpr hnil)
  · intro h
    rcases h with ⟨hgram, hmeans⟩
    have hnone : firstRepeated [] (d.agents.map AgentDocument.name) = none :=
      firstRepeated_eq_none_iff.mpr ⟨hgram.distinct, fun _ _ => List.not_mem_nil⟩
    rw [if_neg (fun hempty => hgram.inhabited (List.isEmpty_iff.mp hempty))]
    exact bind_eq_ok_iff.mpr
      ⟨p.agents, (agentsFrom_eq_ok_iff hd).mpr ⟨hnone, hgram.agents, hmeans⟩, rfl⟩

theorem Document.IsGrammatical.exists_means {d : Document} (h : d.IsGrammatical) :
    exists p, d.Means p := by
  rcases exists_forall₂ fun a ha => (h.agents a ha).exists_means with ⟨agents, hagents⟩
  exact ⟨⟨agents⟩, hagents⟩

/-- A document without tags is accepted exactly if it is grammatical, and what it is loaded
as is what it means. -/
theorem ofDocument_accepts_grammar (d : Document) (hd : d.IsPlain) :
    ((exists p, Program.ofDocument d = .ok p) <-> d.IsGrammatical) ∧
      (forall p, Program.ofDocument d = .ok p -> d.Means p) ∧
        forall text, Document.ofText text = .ok d ->
          Program.ofText text = Program.ofDocument d := by
  refine ⟨⟨?_, ?_⟩, ?_, ?_⟩
  · intro h
    rcases h with ⟨p, h⟩
    exact ((ofDocument_eq_ok_iff hd).mp h).left
  · intro hgram
    rcases hgram.exists_means with ⟨p, hp⟩
    exact ⟨p, (ofDocument_eq_ok_iff hd).mpr ⟨hgram, hp⟩⟩
  · intro p h
    exact ((ofDocument_eq_ok_iff hd).mp h).right
  · intro text h
    rw [Program.ofText, h]

def scriptLoop : Document where
  agents := [{
    name := "coder"
    states := [
      { name := "start"
        action := some [single "system_message" (.string "Write scripts."),
          single "goto" (.string "talk")] },
      { name := "talk"
        conditions := some [
          single "if" (.mapping [(.string "contains", .string "done"),
            (.string "action", .sequence [.string "end"])]),
          single "default" (.mapping [(.string "action", .sequence [
            single "message" (.string "It printed: \x7bpython()\x7d")])])] }] }]

theorem scriptLoop_isPlain : scriptLoop.IsPlain := by
  simp [Document.IsPlain, StateDocument.IsPlain, scriptLoop, single]

theorem scriptLoop_accepted :
    scriptLoop.IsPlain ∧ scriptLoop.IsGrammatical ∧
      exists p, Program.ofDocument scriptLoop = .ok p ∧ scriptLoop.Means p := by
  have haccepts := ofDocument_accepts_grammar scriptLoop scriptLoop_isPlain
  have hok : (Program.ofDocument scriptLoop).isOk = true := by decide +kernel
  cases hload : Program.ofDocument scriptLoop with
  | error e =>
      rw [hload] at hok
      cases hok
  | ok p =>
      exact ⟨scriptLoop_isPlain, haccepts.left.mp ⟨p, hload⟩, p, rfl,
        haccepts.right.left p hload⟩

end Workflow
end Colloquy
