import Colloquy.Proofs.Run.Rules
import Colloquy.Proofs.Workflow.Sound

/-!
# Runs without the model

A visit owes a request, but only a clause, a call in a template or a stay settles it.  An
agent that has none of these carries the request along to its end: it never asks for
anything, and so its run is the same whoever would answer.
-/

namespace Colloquy

open Workflow (Action Agent Clause Conditions Program State)

namespace Dialogue

/-- A dialogue that only tells what happens takes one course and comes to one end. -/
theorem Keeps.eq_of_told {asks : Course σ -> σ -> Query -> Prop} {ends : Course σ -> σ -> α -> Prop}
    {d : Dialogue σ α} {c : Course σ} (h : d.Keeps asks ends c)
    (htold : forall c s q, asks c s q -> exists event, q = .tell event) (answer : Answerer τ)
    (answer' : Answerer τ') (t : τ) (t' : τ') :
    d.course answer t = d.course answer' t' ∧ (d.play answer t).2 = (d.play answer' t').2 := by
  induction d generalizing c t t' with
  | done s a => exact ⟨rfl, rfl⟩
  | ask s q next ih =>
      rcases htold c s q h.left with ⟨event, rfl⟩
      have hsame : (answer t (.tell event)).1 = (answer' t' (.tell event)).1 := rfl
      rcases ih _ (h.right _) (answer t (.tell event)).2 (answer' t' (.tell event)).2 with
        ⟨hcourse, hplay⟩
      constructor
      · rw [course, course, hcourse, hsame]
      · rw [play, play]
        exact hplay

theorem Keeps.of_mem_course {asks : Course σ -> σ -> Query -> Prop}
    {ends : Course σ -> σ -> α -> Prop} {d : Dialogue σ α} {c : Course σ} (h : d.Keeps asks ends c)
    (answer : Answerer τ) (t : τ) {x : Exchange σ} (hx : x ∈ d.course answer t) :
    exists c', asks c' x.state x.query := by
  induction d generalizing c t with
  | done s a => cases hx
  | ask s q next ih =>
      rcases List.mem_cons.mp hx with rfl | hx
      · exact ⟨c, h.left⟩
      · exact ih _ (h.right _) _ hx

end Dialogue

/-- The agent judges no reply, calls no function and never stays in a state. -/
structure Workflow.Agent.NeedsNoModel (a : Agent) : Prop where
  no_clause : forall s, s ∈ a.states -> forall cs, s.conditions = some cs -> cs.clauses = []
  no_call : forall s, s ∈ a.states -> forall as, as ∈ s.actionLists -> forall x, x ∈ as ->
    forall t, x.template? = some t -> t.hasCalls = false
  transfers : forall s, s ∈ a.states -> forall cs, s.conditions = some cs ->
    exists last, cs.fallback.getLast? = some last ∧ last.isTransfer = true

namespace Template

theorem Renderer.segments_eq_pure {renderer : Renderer ε} {reply : String}
    {segments : List Segment} (h : segments.any Segment.isCall = false) :
    (renderer.segments reply segments : Act σ ε String) =
      pure (String.ofList (segments.flatMap Segment.source)) := by
  induction segments with
  | nil => rfl
  | cons s rest ih =>
      rw [List.any_cons, Bool.or_eq_false_iff] at h
      cases s with
      | call f => cases h.left
      | text t =>
          rw [Renderer.segments, ih h.right, List.flatMap_cons, String.ofList_append]
          show (pure (t ++ _) : Act σ ε String) = pure (String.ofList t.toList ++ _)
          rw [String.ofList_toList]

end Template

namespace Runner

theorem render_eq_pure {w : Setting} {s : State} {t : Template} (h : t.hasCalls = false) :
    render w s t = pure t.source := by
  funext r
  unfold render
  rw [h]
  exact congrFun (Template.Renderer.segments_eq_pure h) r

def quiet : Law Runner RunError where
  asks _ r q := r.turns = 0 ∧ exists event, q = .tell event
  fails _ r _ := r.turns = 0

section

variable {w : Setting} {c : Course Runner} {r : Runner} {s : State}

theorem quiet_tells (h : r.turns = 0) (event : Event) : quiet.asks c r (.tell event) :=
  ⟨h, event, rfl⟩

theorem quiet_execute {as : List Action}
    (hcalls : forall a, a ∈ as -> forall t, a.template? = some t -> t.hasCalls = false)
    (h : r.turns = 0) :
    quiet.Holds c r (execute w s as) fun _ r flow =>
      r.turns = 0 ∧ (flow = .stay -> forall a, a ∈ as -> a.isTransfer = false) := by
  refine (Law.holds_actions (p := fun _ r => r.turns = 0) (q := fun _ r _ => r.turns = 0)
    ?_ ?_ ?_ ?_ h).mono ?_
  · rintro c r t h ⟨a, ha, ht⟩
    rw [render_eq_pure (hcalls a ha t ht)]
    exact h
  · intro c r m h
    exact ⟨quiet_tells h _, h⟩
  · intro c r target h _
    exact quiet_tells h _
  · intro c r target h _ _
    exact h
  · intro c r flow hflow
    cases flow with
    | stay => exact ⟨hflow.left, fun _ => hflow.right⟩
    | finish => exact ⟨hflow, fun hstay => by cases hstay⟩
    | goto next =>
        rcases hflow with ⟨_, _, _, _, _, h⟩
        exact ⟨h, fun hstay => by cases hstay⟩

variable (hagent : w.agent.NeedsNoModel)

include hagent

theorem quiet_evaluate (hs : s ∈ w.agent.states) (h : r.turns = 0) :
    quiet.Holds c r (evaluate w s) fun _ r _ => r.turns = 0 := by
  cases hconditions : s.conditions with
  | none =>
      unfold evaluate
      rw [hconditions]
      exact h
  | some cs =>
      have hfallback : cs.fallback ∈ s.actionLists := by
        rw [State.actionLists, hconditions]
        exact List.mem_cons_of_mem _ List.mem_cons_self
      have hbegins : r.beginning.turns = 0 := h
      rcases hagent.transfers s hs cs hconditions with ⟨last, hlast, htransfer⟩
      rw [Law.holds_evaluate hconditions, hagent.no_clause s hs cs hconditions,
        Law.holds_selectFrom_nil]
      refine ⟨quiet_tells hbegins _,
        (quiet_execute (hagent.no_call s hs _ hfallback) hbegins).mono ?_⟩
      intro c r flow hflow
      split
      · rename_i hstay
        have hnone := hflow.right hstay last (List.mem_of_getLast? hlast)
        rw [htransfer] at hnone
        cases hnone
      · exact hflow.left

theorem quiet_visit (hs : s ∈ w.agent.states) {index : Nat} {entering : Bool}
    (h : r.turns = 0) :
    quiet.Holds c r (visit w index entering s) fun _ r _ => r.turns = 0 := by
  cases entering with
  | true =>
      have hentry : s.entryActions ∈ s.actionLists := List.mem_cons_self
      have hentered : ({ r with phase := .entry } : Runner).turns = 0 := h
      rw [Law.holds_visit_entering]
      refine ⟨quiet_tells h _,
        (quiet_execute (hagent.no_call s hs _ hentry) hentered).mono ?_⟩
      intro c r flow hflow
      split
      · exact quiet_evaluate hagent hs hflow.left
      · exact hflow.left
  | false => exact quiet_evaluate hagent hs h

theorem quiet_drive {left index : Nat} {entering : Bool} (h : r.turns = 0) :
    quiet.Holds c r (drive w left index entering) fun _ r _ => r.turns = 0 := by
  induction left generalizing index entering c r with
  | zero => exact h
  | succ left ih =>
      have hcomes : (r.coming index).turns = 0 := h
      cases hstate : w.agent.states[index]? with
      | none =>
          rw [drive, Law.holds_bind, Law.holds_modify, hstate]
          exact h
      | some s =>
          rw [Law.holds_drive_succ hstate]
          refine (quiet_visit hagent (List.mem_of_getElem? hstate) hcomes).mono ?_
          intro c r flow h
          cases flow with
          | stay => exact ih h
          | finish => exact h
          | goto next => exact ih h

theorem quiet_run : (run w).Keeps quiet.asks (fun _ r _ => r.turns = 0) [] := by
  have hstart : ({} : Runner).turns = 0 := rfl
  exact Law.keeps_run (quiet_drive hagent hstart) (fun _ _ h => h) fun _ _ _ h => h

end

/-- An agent that judges no reply, calls no function and never stays in a state asks for
nothing: it only tells what it does, and takes no turn.  Whoever would answer, and whether or
not they would fail, it does the same and comes to the same end. -/
theorem unneeded_model_is_not_asked {w : Setting} (hagent : w.agent.NeedsNoModel)
    (answer : Dialogue.Answerer τ) (t : τ) :
    (forall x, x ∈ (run w).course answer t -> exists event, x.query = .tell event) ∧
      ((run w).play answer t).2.1.turns = 0 ∧
      forall (τ' : Type) (answer' : Dialogue.Answerer τ') (t' : τ'),
        (run w).course answer' t' = (run w).course answer t ∧
          ((run w).play answer' t').2 = ((run w).play answer t).2 := by
  have hquiet := quiet_run hagent
  refine ⟨?_, hquiet.after (Dialogue.ends_course answer t (run w)), ?_⟩
  · intro x hx
    rcases hquiet.of_mem_course answer t hx with ⟨_, _, htold⟩
    exact htold
  · intro τ' answer' t'
    exact hquiet.eq_of_told (fun _ _ _ h => h.right) answer' answer t' t

def herald : Agent where
  name := "herald"
  states := [
    { name := "start"
      entry := some [.systemMessage ⟨[.text "Hello."]⟩]
      conditions := some { clauses := [], fallback := [.goto "close"] } },
    { name := "close"
      entry := some [.message ⟨[.text "Goodbye."]⟩ .user .medium none, .finish] }]

def heraldText : String :=
  "agents:\n" ++
  "- name: herald\n" ++
  "  states:\n" ++
  "  - name: start\n" ++
  "    action:\n" ++
  "    - system_message: Hello.\n" ++
  "    conditions:\n" ++
  "    - default:\n" ++
  "        action:\n" ++
  "        - goto: close\n" ++
  "  - name: close\n" ++
  "    action:\n" ++
  "    - message: Goodbye.\n" ++
  "    - end\n"

theorem heraldText_loaded : Program.ofText heraldText = .ok ⟨[herald]⟩ :=
  eq_ok_of_toOption (by decide +kernel)

theorem herald_needsNoModel : herald.NeedsNoModel where
  no_clause := by
    simp [herald]
  no_call := by
    simp [herald, State.actionLists, State.entryActions, Action.template?, Template.hasCalls,
      Segment.isCall]
  transfers := by
    simp [herald, Action.isTransfer]

def refusing : Dialogue.Answerer Unit
  | _, .complete _ _ => (.error (.model "down"), ())
  | _, .search _ _ => (.error (.retrieval "down"), ())
  | _, .execute _ => (.error (.execution "down"), ())
  | _, .number _ => ((1 : Nat), ())
  | _, .tell _ => ((), ())

theorem herald_asks_nothing :
    Program.ofText heraldText = .ok ⟨[herald]⟩ ∧ herald.NeedsNoModel ∧
      ((run ⟨herald, {}⟩).play refusing ()).2.2 = .ok () ∧
      ((run ⟨herald, {}⟩).play refusing ()).2.1.turns = 0 ∧
      ((run ⟨herald, {}⟩).play refusing ()).2.1.transcript.messages.map Message.text =
        ["Hello.", "Goodbye."] ∧
      ((run ⟨herald, {}⟩).play (Dialogue.scripted (.ok [])) ["unread"]).2 =
        ((run ⟨herald, {}⟩).play refusing ()).2 := by
  have hquiet := unneeded_model_is_not_asked (w := ⟨herald, {}⟩) herald_needsNoModel refusing ()
  exact ⟨heraldText_loaded, herald_needsNoModel, by decide +kernel, hquiet.right.left,
    by decide +kernel, (hquiet.right.right _ _ _).right⟩

end Runner
end Colloquy
