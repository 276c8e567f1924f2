import Colloquy.Proofs.Workflow.Loading

/-!
# Sound agents

In a sound agent control never leaves the states: each `goto` has one state to go to,
and a state without conditions hands control on.  Whatever is loaded is sound, tags
or not.
-/

namespace Colloquy
namespace Workflow

open Yaml (Value)

def State.actionLists (s : State) : List (List Action) :=
  s.entryActions ::
    match s.conditions with
    | none => []
    | some c => c.fallback :: c.clauses.map Clause.actions

/-- The index is that of the one and only state with the name. -/
def Agent.IsOnly (a : Agent) (target : String) (index : Nat) : Prop :=
  (exists s, a.states[index]? = some s ∧ s.name = target) ∧
    forall other s, a.states[other]? = some s -> s.name = target -> other = index

structure Agent.IsSound (a : Agent) : Prop where
  inhabited : a.states ≠ []
  distinct : (a.states.map State.name).Nodup
  targets : forall s, s ∈ a.states -> forall as, as ∈ s.actionLists ->
    forall target, Action.goto target ∈ as -> target ∈ a.states.map State.name
  wayOut : forall s, s ∈ a.states -> s.conditions = none ->
    exists last, s.entryActions.getLast? = some last ∧ last.isTransfer = true

/-- The only state with a name is where the look-up by this name leads. -/
theorem Agent.IsSound.stateIndex? {a : Agent} (h : a.IsSound) {target : String}
    (htarget : target ∈ a.states.map State.name) :
    exists index, a.stateIndex? target = some index ∧ a.IsOnly target index := by
  rcases List.mem_map.mp htarget with ⟨s, hs, hname⟩
  cases hindex : a.stateIndex? target with
  | none =>
      have hnone := List.findIdx?_eq_none_iff.mp hindex s hs
      simp [hname] at hnone
  | some index =>
      rcases List.findIdx?_eq_some_iff_getElem.mp hindex with ⟨hlt, hfound, _⟩
      refine ⟨index, rfl, ⟨_, List.getElem?_eq_getElem hlt, beq_iff_eq.mp hfound⟩, ?_⟩
      intro other t hother ht
      rcases List.getElem?_eq_some_iff.mp hother with ⟨hotherlt, hget⟩
      have hnames : (a.states.map State.name)[other]? = (a.states.map State.name)[index]? := by
        rw [List.getElem?_map, List.getElem?_map, hother, List.getElem?_eq_getElem hlt,
          Option.map_some, Option.map_some, ht, beq_iff_eq.mp hfound]
      exact (List.getElem?_inj (by simpa using hotherlt) h.distinct).mp hnames

/-!
# What is loaded is sound
-/

def LeadsTo (known : List String) (as : List Action) : Prop :=
  forall target, Action.goto target ∈ as -> target ∈ known

theorem known_of_action {known : List String} {index : Nat} {v : Value} {target : String}
    (h : Load.action known index v = .ok (.goto target)) : target ∈ known := by
  unfold Load.action at h
  split at h
  · split at h
    · cases h
    · cases h
  · split at h
    · cases h
    · split at h
      · unfold Load.goto at h
        split at h
        · cases h
        · split at h
          · rename_i hknown
            cases h
            exact List.contains_iff_mem.mp hknown
          · cases h
      · split at h
        · unfold Load.systemMessage at h
          split at h
          · cases h
          · rcases map_eq_ok_iff.mp h with ⟨t, _, h⟩
            cases h
        · split at h
          · rcases bind_eq_ok_iff.mp h with ⟨b, _, h⟩
            rcases bind_eq_ok_iff.mp h with ⟨t, _, h⟩
            cases h
          · cases h

theorem leadsTo_of_actionsFrom {known : List String} {index : Nat} {items : List Value}
    {as : List Action} (h : Load.actionsFrom known index items = .ok as) :
    LeadsTo known as := by
  induction items generalizing index as with
  | nil =>
      cases h
      intro target htarget
      cases htarget
  | cons v items ih =>
      rcases bind_eq_ok_iff.mp h with ⟨a, ha, h⟩
      rcases bind_eq_ok_iff.mp h with ⟨more, hmore, h⟩
      cases h
      intro target htarget
      rcases List.mem_cons.mp htarget with rfl | htarget
      · exact known_of_action ha
      · exact ih hmore target htarget

theorem leadsTo_of_actions {known : List String} {items : List Value} {as : List Action}
    (h : Load.actions known items = .ok as) : LeadsTo known as := by
  rcases bind_eq_ok_iff.mp h with ⟨as', has, h⟩
  split at h
  · cases h
  · cases h
    exact leadsTo_of_actionsFrom has

theorem leadsTo_of_clause {known : List String} {index : Nat} {body : Value} {c : Clause}
    (h : Load.clause known index body = .ok c) : LeadsTo known c.actions := by
  unfold Load.clause at h
  split at h
  · cases h
  · rcases bind_eq_ok_iff.mp h with ⟨p, _, h⟩
    rcases bind_eq_ok_iff.mp h with ⟨as, has, h⟩
    cases h
    exact leadsTo_of_actions has

theorem leadsTo_of_fallback {known : List String} {index : Nat} {body : Value}
    {as : List Action} (h : Load.fallback known index body = .ok as) : LeadsTo known as := by
  unfold Load.fallback at h
  split at h
  · cases h
  · exact leadsTo_of_actions h

theorem leadsTo_of_conditionsFrom {known : List String} {index : Nat} {items : List Value}
    {c : Conditions} (h : Load.conditionsFrom known index items = .ok c) :
    LeadsTo known c.fallback ∧
      forall clause, clause ∈ c.clauses -> LeadsTo known clause.actions := by
  induction items generalizing index c with
  | nil => cases h
  | cons v rest ih =>
      unfold Load.conditionsFrom at h
      split at h
      · cases h
      · split at h
        · rcases bind_eq_ok_iff.mp h with ⟨first, hfirst, h⟩
          rcases bind_eq_ok_iff.mp h with ⟨more, hmore, h⟩
          cases h
          rcases ih hmore with ⟨hfallback, hclauses⟩
          exact ⟨hfallback, List.forall_mem_cons.mpr ⟨leadsTo_of_clause hfirst, hclauses⟩⟩
        · split at h
          · rcases bind_eq_ok_iff.mp h with ⟨as, has, h⟩
            split at h
            · cases h
              exact ⟨leadsTo_of_fallback has, fun c hc => (List.not_mem_nil hc).elim⟩
            · cases h
          · cases h

theorem leadsTo_of_entry {known : List String} {items? : Option (List Value)}
    {entry : Option (List Action)}
    (h : Load.optional (Load.actions known) items? = .ok entry) :
    LeadsTo known (entry.getD []) := by
  cases optional_eq_ok_iff.mp h with
  | none =>
      intro target htarget
      cases htarget
  | some hactions => exact leadsTo_of_actions hactions

theorem getLast?_of_endsInTransfer {entry : Option (List Action)}
    (h : Load.endsInTransfer entry = true) :
    exists last, (entry.getD []).getLast? = some last ∧ last.isTransfer = true := by
  cases entry with
  | none => cases h
  | some as =>
      rw [Load.endsInTransfer, Option.bind_some] at h
      cases hlast : as.getLast? with
      | none =>
          rw [hlast] at h
          cases h
      | some last =>
          rw [hlast] at h
          exact ⟨last, hlast, h⟩

theorem leadsTo_of_stateBody {known : List String} {d : StateDocument} {s : State}
    (h : Load.stateBody known d = .ok s) : forall as, as ∈ s.actionLists -> LeadsTo known as := by
  have hloaded := isLoadedAs_of_stateBody h
  refine List.forall_mem_cons.mpr ⟨leadsTo_of_entry hloaded.entry, ?_⟩
  have hrel := optional_eq_ok_iff.mp hloaded.conditions
  generalize d.conditions = items?, s.conditions = conditions at hrel
  cases hrel with
  | none =>
      intro as has
      cases has
  | some hconds =>
      rcases leadsTo_of_conditionsFrom hconds with ⟨hfallback, hclauses⟩
      exact List.forall_mem_cons.mpr ⟨hfallback, List.forall_mem_map.mpr hclauses⟩

theorem stateBody_of_state {name : String} {known : List String} {d : StateDocument} {s : State}
    (h : Load.state name known d = .ok s) : Load.stateBody known d = .ok s := by
  unfold Load.state at h
  split at h
  · cases h
    assumption
  · cases h

theorem names_of_states {name : String} {known : List String} {ds : List StateDocument}
    {states : List State}
    (h : List.Forall₂ (fun d s => Load.state name known d = .ok s) ds states) :
    states.map State.name = ds.map StateDocument.name := by
  induction h with
  | nil => rfl
  | cons hs _ ih =>
      rw [List.map_cons, List.map_cons, ih, (isLoadedAs_of_stateBody (stateBody_of_state hs)).name]

theorem exists_document_of_state {name : String} {known : List String}
    {ds : List StateDocument} {states : List State}
    (h : List.Forall₂ (fun d s => Load.state name known d = .ok s) ds states) :
    forall s, s ∈ states -> exists d, Load.stateBody known d = .ok s := by
  induction h with
  | nil =>
      intro s hs
      cases hs
  | cons hs _ ih => exact List.forall_mem_cons.mpr ⟨⟨_, stateBody_of_state hs⟩, ih⟩

theorem isSound_of_agent {d : AgentDocument} {a : Agent} (h : Load.agent d = .ok a) :
    a.IsSound := by
  rw [agent_eq] at h
  split at h
  · cases h
  · rename_i hinhabited
    split at h
    · cases h
    · rename_i hnone
      rcases bind_eq_ok_iff.mp h with ⟨states, hstates, h⟩
      cases h
      have hloaded := mapM_eq_ok_iff.mp hstates
      have hnames := names_of_states hloaded
      have hdocuments := exists_document_of_state hloaded
      refine ⟨?_, ?_, ?_, ?_⟩
      · intro hnil
        have hnil : states = [] := hnil
        rw [hnil] at hnames
        exact hinhabited (List.isEmpty_iff.mpr (List.map_eq_nil_iff.mp hnames.symm))
      · show (states.map State.name).Nodup
        rw [hnames]
        exact (firstRepeated_eq_none_iff.mp hnone).left
      · intro s hs as has target htarget
        show target ∈ states.map State.name
        rcases hdocuments s hs with ⟨sd, hsd⟩
        rw [hnames]
        exact leadsTo_of_stateBody hsd as has target htarget
      · intro s hs hnone
        rcases hdocuments s hs with ⟨sd, hsd⟩
        exact getLast?_of_endsInTransfer ((isLoadedAs_of_stateBody hsd).wayOut hnone)

theorem isSound_of_agentsFrom {seen : List String} {ds : List AgentDocument} {as : List Agent}
    (h : Load.agentsFrom seen ds = .ok as) : forall a, a ∈ as -> a.IsSound := by
  induction ds generalizing seen as with
  | nil =>
      cases h
      intro a ha
      cases ha
  | cons d ds ih =>
      rw [agentsFrom_cons_eq] at h
      split at h
      · cases h
      · rcases bind_eq_ok_iff.mp h with ⟨a, ha, h⟩
        rcases bind_eq_ok_iff.mp h with ⟨more, hmore, h⟩
        cases h
        exact List.forall_mem_cons.mpr ⟨isSound_of_agent ha, ih hmore⟩

theorem isSound_of_ofText {text : String} {p : Program} (h : Program.ofText text = .ok p) :
    forall a, a ∈ p.agents -> a.IsSound := by
  unfold Program.ofText at h
  split at h
  · cases h
  · rw [ofDocument_eq] at h
    split at h
    · cases h
    · rcases bind_eq_ok_iff.mp h with ⟨agents, hagents, h⟩
      cases h
      exact isSound_of_agentsFrom hagents

end Workflow
end Colloquy
