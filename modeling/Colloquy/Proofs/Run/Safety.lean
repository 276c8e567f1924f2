import Colloquy.Proofs.Run.Rules
import Colloquy.Proofs.Workflow.Sound

/-!
# Safety of runs

The run of a loaded agent never leaves its states.  It fails only for a limit or for a
service, and each `goto` leads to the one state with the name.
-/

namespace Colloquy

open Workflow (Action Agent Clause Conditions Program State)

def Exchange.went? : Exchange σ -> Option String
  | ⟨_, .tell (.went target), _⟩ => some target
  | _ => none

namespace Runner

def lastWent? (c : Course Runner) : Option String :=
  c.getLast?.bind Exchange.went?

@[simp] theorem lastWent?_concat {c : Course Runner} {x : Exchange Runner} :
    lastWent? (c ++ [x]) = x.went? := by
  rw [lastWent?, List.getLast?_concat, Option.bind_some]

/-- How a run may fail after a course: at a limit, or as the service failed that was
asked last. -/
inductive Permitted (w : Setting) (c : Course Runner) : RunError -> Prop where
  | transitions : Permitted w c (.tooManyTransitions w.agent.name w.options.maxTransitions)
  | turns : Permitted w c (.tooManyTurns w.agent.name w.options.maxTurns)
  | service {x : Exchange Runner} {e : ServiceError} (hlast : c.getLast? = some x)
      (hfailed : x.failure? = some e) : Permitted w c (.service e)

/-- The agent is in one of its states.  After a `goto` it enters the only state with the
name, unless it has made too many transitions. -/
def inside (w : Setting) : Law Runner RunError where
  asks c r q := r.state < w.agent.states.length ∧
    forall target, lastWent? c = some target ->
      w.agent.IsOnly target r.state ∧ q = .tell (.entered r.state)
  fails c r e := r.state < w.agent.states.length ∧ Permitted w c e ∧
    forall target, lastWent? c = some target ->
      e = .tooManyTransitions w.agent.name w.options.maxTransitions ∧
        exists next, w.agent.IsOnly target next

def Within (index : Nat) (c : Course Runner) (r : Runner) : Prop :=
  r.state = index ∧ lastWent? c = none

section

variable {w : Setting} {c : Course Runner} {r : Runner} {index : Nat} {state : State}

theorem Within.asks (h : Within index c r) (hindex : index < w.agent.states.length) (q : Query) :
    (inside w).asks c r q := by
  refine ⟨h.left ▸ hindex, ?_⟩
  intro target htarget
  rw [h.right] at htarget
  cases htarget

theorem Within.fails (h : Within index c r) (hindex : index < w.agent.states.length)
    {e : RunError} (he : Permitted w c e) : (inside w).fails c r e := by
  refine ⟨h.left ▸ hindex, he, ?_⟩
  intro target htarget
  rw [h.right] at htarget
  cases htarget

theorem Within.concat (h : Within index c r) {x : Exchange Runner} (hx : x.went? = none) :
    Within index (c ++ [x]) r :=
  ⟨h.left, by rw [lastWent?_concat, hx]⟩

theorem Within.concat_fails (h : Within index c r) (hindex : index < w.agent.states.length)
    {x : Exchange Runner} {e : ServiceError} (hx : x.failure? = some e) :
    (inside w).fails (c ++ [x]) r (.service e) := by
  have hwent : x.went? = none := by
    rcases x with ⟨s, q, answer⟩
    cases q with
    | complete => rfl
    | search => rfl
    | execute => rfl
    | number => rfl
    | tell => cases hx
  exact (h.concat hwent).fails hindex (.service List.getLast?_concat hx)

theorem inside_request (hindex : index < w.agent.states.length) (h : Within index c r) :
    (inside w).Holds c r (request w state) fun c r _ => Within index c r := by
  apply Law.holds_request
  · intro _
    exact Within.fails h hindex .turns
  · exact Within.asks h hindex _
  · intro e
    exact Within.concat_fails h hindex rfl
  · intro reply
    have hreply := Within.concat h (x := asked w state r (.ok reply)) rfl
    exact ⟨Within.asks hreply hindex _, Within.concat hreply rfl⟩

theorem steady_within (hindex : index < w.agent.states.length) :
    (inside w).Steady w state (Within index) where
  tool := by
    intro c r q h hq
    refine ⟨h.asks hindex q, fun answer => h.concat ?_⟩
    cases q with
    | complete => rfl
    | search => rfl
    | execute => rfl
    | number => rfl
    | tell => cases hq
  toolFails := by
    intro c r x e h _ hx
    exact h.concat_fails hindex hx
  appended := by
    intro c r m h
    exact ⟨h.asks hindex _, h.concat rfl⟩
  observed := by
    intro c r h
    rw [Law.holds_observe]
    split
    · split
      · exact inside_request hindex h
      · exact h
    · exact h

/-!
# Visits

The invariant of a visit is that the runner is in the state that it visits.  Only a `goto`
moves it, and in a sound agent there is one state that it can lead to.
-/

theorem inside_selectFrom (hindex : index < w.agent.states.length) {fallback : List Action}
    {clauses : List Clause} {i : Nat} (h : Within index c r) :
    (inside w).Holds c r (selectFrom w state fallback i clauses) fun c r as =>
      Within index c r ∧ as ∈ fallback :: clauses.map Clause.actions := by
  refine (steady_within hindex).selectFrom ?_ ?_ h
  · intro c r i holds h
    exact ⟨h.asks hindex _, h.concat rfl⟩
  · intro c r b h
    exact ⟨h.asks hindex _, h.concat rfl⟩

def Visited (w : Setting) (index : Nat) (c : Course Runner) (r : Runner) : Flow -> Prop
  | .stay => Within index c r
  | .finish => Within index c r
  | .goto next => r.state = index ∧
      exists target, lastWent? c = some target ∧ w.agent.IsOnly target next

/-- A list of actions of a sound agent stays within the state until it goes on to another. -/
theorem inside_execute (hsound : w.agent.IsSound) (hstate : w.agent.states[index]? = some state)
    {as : List Action} (has : as ∈ state.actionLists) (h : Within index c r) :
    (inside w).Holds c r (execute w state as) fun c r flow =>
      Visited w index c r flow ∧
        (flow = .stay -> forall a, a ∈ as -> a.isTransfer = false) := by
  have hindex := (List.getElem?_eq_some_iff.mp hstate).choose
  have htarget : forall target, Action.goto target ∈ as -> exists next,
      w.agent.stateIndex? target = some next ∧ w.agent.IsOnly target next := by
    intro target hmem
    exact hsound.stateIndex?
      (hsound.targets state (List.mem_of_getElem? hstate) as has target hmem)
  refine ((steady_within hindex).execute ?_ ?_ h).mono ?_
  · intro c r target h _
    exact h.asks hindex _
  · intro c r target _ hmem hnone
    rcases htarget target hmem with ⟨next, hnext, _⟩
    rw [hnone] at hnext
    cases hnext
  · intro c r flow hflow
    cases flow with
    | stay => exact ⟨hflow.left, fun _ => hflow.right⟩
    | finish =>
        refine ⟨hflow, ?_⟩
        intro hstay
        cases hstay
    | goto next =>
        rcases hflow with ⟨target, front, hmem, hnext, rfl, h⟩
        rcases htarget target hmem with ⟨next', hnext', honly⟩
        rw [hnext] at hnext'
        cases hnext'
        refine ⟨⟨h.left, target, lastWent?_concat, honly⟩, ?_⟩
        intro hstay
        cases hstay

theorem inside_evaluate (hsound : w.agent.IsSound) (hstate : w.agent.states[index]? = some state)
    {conditions : Conditions} (hconditions : state.conditions = some conditions)
    (h : Within index c r) :
    (inside w).Holds c r (evaluate w state) (Visited w index) := by
  have hindex := (List.getElem?_eq_some_iff.mp hstate).choose
  rw [Law.holds_evaluate hconditions]
  refine (inside_selectFrom (r := r.beginning) hindex ⟨h.left, h.right⟩).mono ?_
  intro c r as has
  rcases has with ⟨h, has⟩
  have hlists : as ∈ state.actionLists := by
    rw [State.actionLists, hconditions]
    exact List.mem_cons_of_mem _ has
  refine (inside_execute hsound hstate hlists h).mono ?_
  intro c r flow hflow
  split
  · rename_i hstay
    rw [hstay] at hflow
    refine (inside_request (r := { r with turnOwed := false }) hindex
      ⟨hflow.left.left, hflow.left.right⟩).mono ?_
    intro c r _ h
    exact ⟨h.left, h.right⟩
  · exact hflow.left

/-- The state that a run comes to: the one that the last `goto` names, if that was the last
thing done, and one with conditions if the agent was in it before. -/
structure Comes (w : Setting) (index : Nat) (entering : Bool) (c : Course Runner)
    (r : Runner) : Prop where
  came : r.state < w.agent.states.length
  exists_state : index < w.agent.states.length
  went : forall target, lastWent? c = some target ->
    entering = true ∧ w.agent.IsOnly target index
  stayed : entering = false -> exists state, w.agent.states[index]? = some state ∧
    state.conditions ≠ none

theorem inside_visit (hsound : w.agent.IsSound) (hstate : w.agent.states[index]? = some state)
    {entering : Bool} (h : Comes w index entering c r) :
    (inside w).Holds c (r.coming index) (visit w index entering state) fun c r flow =>
      Visited w index c r flow ∧ (flow = .stay -> state.conditions ≠ none) := by
  cases entering with
  | true =>
      rw [Law.holds_visit_entering]
      refine ⟨⟨h.exists_state, ?_⟩, ?_⟩
      · intro target htarget
        exact ⟨(h.went target htarget).right, rfl⟩
      · refine (inside_execute hsound hstate List.mem_cons_self
          ⟨rfl, lastWent?_concat⟩).mono ?_
        intro c r flow hflow
        split
        · rename_i hstay
          have hentry := hflow.right hstay
          rw [hstay] at hflow
          cases hconditions : state.conditions with
          | none =>
              -- The entry actions of a state without conditions end in a transfer.
              rcases hsound.wayOut state (List.mem_of_getElem? hstate) hconditions with
                ⟨last, hlast, htransfer⟩
              rw [hentry last (List.mem_of_getLast? hlast)] at htransfer
              cases htransfer
          | some conditions =>
              refine (inside_evaluate hsound hstate hconditions hflow.left).mono ?_
              intro c r flow hflow
              exact ⟨hflow, fun _ => Option.some_ne_none conditions⟩
        · rename_i hleft
          exact ⟨hflow.left, fun hstay => (hleft hstay).elim⟩
  | false =>
      rcases h.stayed rfl with ⟨state', hstate', hconditions⟩
      rw [hstate] at hstate'
      cases hstate'
      have hwent : lastWent? c = none := by
        cases hlast : lastWent? c with
        | none => rfl
        | some target => cases (h.went target hlast).left
      rcases Option.ne_none_iff_exists'.mp hconditions with ⟨conditions, hsome⟩
      refine (inside_evaluate hsound hstate hsome ⟨rfl, hwent⟩).mono ?_
      intro c r flow hflow
      exact ⟨hflow, fun _ => hconditions⟩

theorem inside_drive (hsound : w.agent.IsSound) {left : Nat} {entering : Bool}
    (h : Comes w index entering c r) :
    (inside w).Holds c r (drive w left index entering) fun c r _ =>
      r.state < w.agent.states.length ∧ lastWent? c = none := by
  induction left generalizing index entering c r with
  | zero =>
      rw [Law.holds_drive_zero]
      refine ⟨h.came, .transitions, ?_⟩
      intro target htarget
      exact ⟨rfl, index, (h.went target htarget).right⟩
  | succ left ih =>
      have hstate := List.getElem?_eq_getElem h.exists_state
      rw [Law.holds_drive_succ hstate]
      refine (inside_visit hsound hstate h).mono ?_
      intro c r flow hflow
      rcases hflow with ⟨hvisited, hconditions⟩
      cases flow with
      | stay =>
          refine ih ⟨hvisited.left ▸ h.exists_state, h.exists_state, ?_, ?_⟩
          · intro target htarget
            rw [hvisited.right] at htarget
            cases htarget
          · intro _
            exact ⟨_, hstate, hconditions rfl⟩
      | finish => exact ⟨hvisited.left ▸ h.exists_state, hvisited.right⟩
      | goto next =>
          rcases hvisited with ⟨hindex, target, hlast, honly⟩
          rcases honly.left with ⟨s, hnext, _⟩
          have hlt := (List.getElem?_eq_some_iff.mp hnext).choose
          refine ih ⟨hindex ▸ h.exists_state, hlt, ?_, ?_⟩
          · intro target' htarget
            rw [hlast] at htarget
            cases htarget
            exact ⟨rfl, honly⟩
          · intro hentering
            cases hentering

/-!
# Whole runs
-/

def Moves (w : Setting) (next : Nat) (rest : Dialogue Runner (Except RunError Unit)) : Prop :=
  (exists r more, rest = .ask r (.tell (.entered next)) more ∧ r.state = next) ∨
    exists r, rest =
      .done r (.error (.tooManyTransitions w.agent.name w.options.maxTransitions))

theorem inside_run (hsound : w.agent.IsSound) :
    (run w).Keeps (inside w).asks (fun c r result =>
      r.state < w.agent.states.length ∧
        match result with
        | .ok _ => lastWent? c = none
        | .error e => (inside w).fails c r e) [] := by
  have hcomes : Comes w w.agent.entryIndex true [] {} := by
    have hlt : 0 < w.agent.states.length := List.length_pos_iff.mpr hsound.inhabited
    refine ⟨hlt, hlt, ?_, ?_⟩
    · intro target htarget
      cases htarget
    · intro hentering
      cases hentering
  exact Law.keeps_run (inside_drive hsound hcomes) (fun _ _ h => h)
    fun _ _ _ h => ⟨h.left, h⟩

theorem permitted_of_ends (hsound : w.agent.IsSound) {e : RunError}
    (hends : (run w).Ends c r (.error e)) : Permitted w c e := by
  have hkeeps := (inside_run hsound).after hends
  rw [List.nil_append] at hkeeps
  exact hkeeps.right.right.left

end

/-- The run of an agent of a loaded program, after any course: the agent is in one of its
states, the run has failed only as is permitted, it goes where the last `goto` says, and
whoever answers leads it to an end, where it has failed only as is permitted. -/
theorem loaded_run_safe {text : String} {p : Program} (hloaded : Program.ofText text = .ok p)
    {i : Nat} {a : Agent} (hagent : p.agents[i]? = some a) (o : Options) {c : Course Runner}
    {rest : Dialogue Runner (Except RunError Unit)} (hafter : (run ⟨a, o⟩).After c rest) :
    (exists s, a.states[rest.shown.state]? = some s) ∧
      (forall r e, rest = .done r (.error e) -> Permitted ⟨a, o⟩ c e) ∧
      (forall target, lastWent? c = some target ->
        exists next, a.IsOnly target next ∧ Moves ⟨a, o⟩ next rest) ∧
      forall (τ : Type) (answer : Dialogue.Answerer τ) (t : τ), exists back r result,
        rest.Ends back r result ∧ (rest.play answer t).2 = (r, result) ∧
          forall e, result = .error e -> Permitted ⟨a, o⟩ (c ++ back) e := by
  have hsound := Workflow.isSound_of_ofText hloaded a (List.mem_of_getElem? hagent)
  have hkeeps := (inside_run (w := ⟨a, o⟩) hsound).after hafter
  rw [List.nil_append] at hkeeps
  refine ⟨?_, ?_, ?_, ?_⟩
  · have hlt : rest.shown.state < a.states.length := by
      cases rest with
      | done r result => exact hkeeps.left
      | ask r q next => exact hkeeps.left.left
    exact ⟨_, List.getElem?_eq_getElem hlt⟩
  · rintro r e rfl
    exact permitted_of_ends (w := ⟨a, o⟩) hsound hafter
  · intro target htarget
    cases rest with
    | done r result =>
        cases result with
        | ok =>
            rw [hkeeps.right] at htarget
            cases htarget
        | error e =>
            rcases hkeeps.right.right.right target htarget with ⟨rfl, next, honly⟩
            exact ⟨next, honly, Or.inr ⟨r, rfl⟩⟩
    | ask r q next =>
        rcases hkeeps.left.right target htarget with ⟨honly, rfl⟩
        exact ⟨r.state, honly, Or.inl ⟨r, next, rfl, rfl⟩⟩
  · intro τ answer t
    rcases rest.exists_ends_play answer t with ⟨back, r, result, hends, hplay⟩
    refine ⟨back, r, result, hends, hplay, ?_⟩
    rintro e rfl
    exact permitted_of_ends (w := ⟨a, o⟩) hsound (hafter.append hends)

def hop : Agent where
  name := "guide"
  states := [
    { name := "start", entry := some [.goto "finish"] },
    { name := "finish", entry := some [.finish] }]

def hopText : String :=
  "agents:\n" ++
  "- name: guide\n" ++
  "  states:\n" ++
  "  - name: start\n" ++
  "    action:\n" ++
  "    - goto: finish\n" ++
  "  - name: finish\n" ++
  "    action:\n" ++
  "    - end\n"

theorem hopText_loaded : Program.ofText hopText = .ok ⟨[hop]⟩ :=
  eq_ok_of_toOption (by decide +kernel)

theorem hop_run_safe :
    Program.ofText hopText = .ok ⟨[hop]⟩ ∧
      exists c rest, (run ⟨hop, {}⟩).After c rest ∧ lastWent? c = some "finish" ∧
        exists next, hop.IsOnly "finish" next ∧ Moves ⟨hop, {}⟩ next rest := by
  let r : Runner := { transitions := 1 }
  have hrun : exists more, run ⟨hop, {}⟩ =
      .ask r (.tell (.entered 0)) fun _ => .ask r (.tell (.went "finish")) more := ⟨_, rfl⟩
  rcases hrun with ⟨more, hrun⟩
  have hafter :
      (run ⟨hop, {}⟩).After [.told r (.entered 0), .told r (.went "finish")] (more ()) := by
    rw [hrun]
    refine Dialogue.After.answered (q := .tell (.entered 0)) () ?_
    exact Dialogue.After.answered (q := .tell (.went "finish")) () (Dialogue.After.start _)
  refine ⟨hopText_loaded, _, _, hafter, rfl, ?_⟩
  exact (loaded_run_safe hopText_loaded (i := 0) rfl {} hafter).right.right.left _ rfl

end Runner
end Colloquy
