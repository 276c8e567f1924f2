import Colloquy.Proofs.Dialogue.Course
import Colloquy.Run.Report
import Mathlib.Data.List.Forall2
import Mathlib.Logic.Function.Iterate

/-!
# Agents that run at once

The agents of a program take their steps in any order.  If no answer depends on what was
asked before, an agent that has taken some steps stands where it stands after as many steps
of its own, and all that the others do is lost on it.
-/

namespace Colloquy

namespace Dialogue

/-- What is answered only depends on the question. -/
def Memoryless (answer : Answerer τ) : Prop :=
  forall t t' q, (answer t q).1 = (answer t' q).1

def resume (answer : Answerer τ) (t : τ) : Dialogue σ α -> Dialogue σ α
  | done s a => done s a
  | ask _ q next => next (answer t q).1

section

variable {answer : Answerer τ} {d : Dialogue σ α} {s : σ} {a : α}

theorem iterate_resume_done (t : τ) (n : Nat) :
    (resume answer t)^[n] (done s a) = done s a :=
  Function.iterate_fixed rfl n

variable (h : Memoryless answer)

include h

theorem Memoryless.course_eq (t t' : τ) : d.course answer t = d.course answer t' := by
  induction d generalizing t t' with
  | done s a => rfl
  | ask s q next ih =>
      rw [course, course, h t t' q, ih _ (answer t q).2 (answer t' q).2]

theorem Memoryless.play_eq (t t' : τ) : (d.play answer t).2 = (d.play answer t').2 := by
  induction d generalizing t t' with
  | done s a => rfl
  | ask s q next ih =>
      show ((next (answer t q).1).play answer (answer t q).2).2 =
        ((next (answer t' q).1).play answer (answer t' q).2).2
      rw [h t t' q]
      exact ih _ _ _

theorem Memoryless.after_iterate (t : τ) (n : Nat) :
    d.After ((d.course answer t).take n) ((resume answer t)^[n] d) := by
  induction n generalizing d with
  | zero => exact After.start d
  | succ n ih =>
      rw [Function.iterate_succ_apply]
      cases d with
      | done s a =>
          rw [resume, iterate_resume_done]
          exact After.start _
      | ask s q next =>
          rw [course, List.take_succ_cons, h.course_eq (answer t q).2 t]
          exact After.answered (answer t q).1 ih

theorem Memoryless.iterate_resume_eq_done {t : τ} {n : Nat}
    (hn : (d.course answer t).length <= n) :
    (resume answer t)^[n] d = done (d.play answer t).2.1 (d.play answer t).2.2 := by
  induction n generalizing d with
  | zero =>
      cases d with
      | done s a => rfl
      | ask s q next => cases hn
  | succ n ih =>
      rw [Function.iterate_succ_apply]
      cases d with
      | done s a => exact iterate_resume_done t n
      | ask s q next =>
          have hrest : ((next (answer t q).1).course answer t).length <= n := by
            rw [h.course_eq t (answer t q).2]
            exact Nat.le_of_succ_le_succ hn
          rw [resume, ih hrest, h.play_eq t (answer t q).2]
          rfl

theorem Memoryless.play_eq_of_iterate {t : τ} {n : Nat}
    (hdone : (resume answer t)^[n] d = done s a) : (d.play answer t).2 = (s, a) := by
  induction n generalizing d with
  | zero =>
      have hd : d = done s a := hdone
      rw [hd]
      rfl
  | succ n ih =>
      rw [Function.iterate_succ_apply] at hdone
      rw [← ih hdone]
      cases d with
      | done s a => rfl
      | ask s q next => exact h.play_eq (answer t q).2 t

end

end Dialogue

open Workflow (Agent Program)

namespace Finished

def atEnd (f : Finished) : UnderWay :=
  (f.agent, .done f.runner f.result)

structure ReportedAs (f : Finished) (x : AgentReport) : Prop where
  agent : x.agent = f.agent.name
  terminated : f.result = .ok () -> x.status = .terminated
  failed : forall e, f.result = .error e -> x.status = .failed e.message
  finalState : x.finalState = f.stateName
  messages : x.messages = f.runner.transcript.length
  turns : x.turns = f.runner.turns

theorem reportedAs_report (f : Finished) : f.ReportedAs f.report where
  agent := rfl
  terminated := by
    intro h
    rw [report, h]
  failed := by
    intro e h
    rw [report, h]
  finalState := rfl
  messages := rfl
  turns := rfl

end Finished

/-!
# Steps of several agents

A step of one agent leaves the others as they are.
-/

/-- The order in which the agents take these numbers of steps, one agent after the other. -/
def oneByOne (steps : List Nat) : List Nat :=
  (steps.mapIdx fun i n => List.replicate n i).flatten

theorem le_count_oneByOne {steps : List Nat} {i n : Nat} (h : steps[i]? = some n) :
    n <= (oneByOne steps).count i := by
  have hmem : List.replicate n i ∈ steps.mapIdx fun i n => List.replicate n i := by
    apply List.mem_of_getElem? (i := i)
    rw [List.getElem?_mapIdx, h]
    rfl
  have hcount := (List.sublist_flatten_of_mem hmem).count_le i
  rw [List.count_replicate_self] at hcount
  exact hcount

section

open Dialogue (resume Memoryless)

variable {s : Surroundings τ} {o : Options} {p : Program} {agents : List UnderWay}
  {index i : Nat}

theorem runAgent_of_play {a : Agent} {t : τ} {r : Runner} {result : Except RunError Unit}
    (h : ((Runner.run ⟨a, o⟩).play (s a.name) t).2 = (r, result)) :
    (runAgent s o t a).2 = ⟨a, r, result⟩ :=
  congrArg (fun e : Runner × Except RunError Unit => Finished.mk a e.1 e.2) h

theorem getElem?_stepAgent_of_ne (h : index ≠ i) (t : τ) :
    (stepAgent s t agents index).2[i]? = agents[i]? := by
  unfold stepAgent
  split
  · exact List.getElem?_set_ne h
  · rfl

variable (hs : forall name, Memoryless (s name))

include hs

theorem getElem?_stepAgent (t t' : τ) :
    (stepAgent s t agents index).2[index]? =
      agents[index]?.map fun x => (x.1, resume (s x.1.name) t' x.2) := by
  cases hstands : agents[index]? with
  | none =>
      rw [stepAgent, hstands]
      exact hstands
  | some x =>
      rcases x with ⟨a, d⟩
      cases d with
      | done r result =>
          rw [stepAgent, hstands]
          exact hstands
      | ask r q next =>
          have hlength : index < agents.length := (List.getElem?_eq_some_iff.mp hstands).choose
          rw [stepAgent, hstands]
          show (agents.set index (a, next (s a.name t q).1))[index]? = _
          rw [List.getElem?_set_self hlength, hs a.name t t' q]
          rfl

/-- The induction over an order: an agent takes the steps that the order gives it. -/
theorem getElem?_interleave (t t' : τ) (order : List Nat) :
    (interleave s t agents order).2[i]? = agents[i]?.map fun x =>
      (x.1, (resume (s x.1.name) t')^[order.count i] x.2) := by
  induction order generalizing t agents with
  | nil => exact (congrFun Option.map_id_fun agents[i]?).symm
  | cons index order ih =>
      have hrest : (interleave s t agents (index :: order)).2[i]? =
          (stepAgent s t agents index).2[i]?.map fun x =>
            (x.1, (resume (s x.1.name) t')^[order.count i] x.2) := ih _
      by_cases h : index = i
      · rw [hrest, h, getElem?_stepAgent hs t t', List.count_cons_self, Option.map_map]
        rfl
      · rw [hrest, getElem?_stepAgent_of_ne h, List.count_cons_of_ne h]

/-!
# Whole programs

An order in which the agents take enough steps brings all of them to their ends, and these are
the ends to which they come one by one.
-/

theorem runAgent_eq (a : Agent) (t t' : τ) : (runAgent s o t a).2 = (runAgent s o t' a).2 :=
  runAgent_of_play ((hs a.name).play_eq t t')

theorem runAgents_eq (t t' : τ) (agents : List Agent) :
    (runAgents s o t agents).2 = agents.map fun a => (runAgent s o t' a).2 := by
  induction agents generalizing t with
  | nil => rfl
  | cons a rest ih => exact congrArg₂ List.cons (runAgent_eq hs a t t') (ih _)

theorem getElem?_interleave_start (t t' : τ) (order : List Nat) :
    (interleave s t (start o p) order).2[i]? = p.agents[i]?.map fun a =>
      (a, (resume (s a.name) t')^[order.count i] (Runner.run ⟨a, o⟩)) := by
  rw [getElem?_interleave hs t t', start, List.getElem?_map, Option.map_map]
  rfl

theorem eq_map_runAgent (t t' : τ) {order : List Nat} {fs : List Finished}
    (hstopped : (interleave s t (start o p) order).2 = fs.map Finished.atEnd) :
    fs = p.agents.map fun a => (runAgent s o t' a).2 := by
  apply List.ext_getElem?
  intro i
  have hi := getElem?_interleave_start (o := o) (p := p) (i := i) hs t t' order
  rw [hstopped, List.getElem?_map] at hi
  rw [List.getElem?_map]
  cases ha : p.agents[i]? with
  | none =>
      rw [ha] at hi
      rw [Option.map_eq_none_iff.mp hi]
      rfl
  | some a =>
      rw [ha] at hi
      rcases Option.map_eq_some_iff.mp hi with ⟨⟨a', r, result⟩, hf, hend⟩
      rcases Prod.mk.inj hend with ⟨rfl, hdone⟩
      rw [hf, Option.map_some,
        runAgent_of_play ((hs a'.name).play_eq_of_iterate hdone.symm)]

theorem interleave_eq_of_length_le (t t' : τ) {order : List Nat}
    (henough : forall i a, p.agents[i]? = some a ->
      ((Runner.run ⟨a, o⟩).course (s a.name) t').length <= order.count i) :
    (interleave s t (start o p) order).2 =
      (p.agents.map fun a => (runAgent s o t' a).2).map Finished.atEnd := by
  apply List.ext_getElem?
  intro i
  rw [getElem?_interleave_start hs t t', List.map_map, List.getElem?_map]
  apply Option.map_congr
  intro a ha
  rw [(hs a.name).iterate_resume_eq_done (henough i a ha)]
  rfl

theorem exists_interleave_eq (t t' : τ) (order : List Nat) : exists more,
    (interleave s t (start o p) (order ++ more)).2 =
      (p.agents.map fun a => (runAgent s o t' a).2).map Finished.atEnd := by
  refine ⟨oneByOne (p.agents.map fun a =>
    ((Runner.run ⟨a, o⟩).course (s a.name) t').length), interleave_eq_of_length_le hs t t' ?_⟩
  intro i a ha
  rw [List.count_append]
  apply Nat.le_add_left_of_le
  apply le_count_oneByOne
  rw [List.getElem?_map, ha]
  rfl

end

/-- Agents that run at once do not disturb each other, in whatever order they take their
steps and whoever of them fails.  Each goes along the course that it takes on its own, as far
as the order lets it, and stops as it does on its own.  Any order can be gone on with until all
have stopped; then the report has one entry for each agent, in the order in which they are
declared, and the entry says how the agent stops on its own. -/
theorem agents_run_undisturbed {s : Surroundings τ}
    (hs : forall name, Dialogue.Memoryless (s name)) (o : Options) (p : Program) (t t' : τ)
    (order : List Nat) :
    (interleave s t (start o p) order).2.map Prod.fst = p.agents ∧
      (forall (i : Nat) a, p.agents[i]? = some a -> exists d,
        (interleave s t (start o p) order).2[i]? = some (a, d) ∧
          (Runner.run ⟨a, o⟩).After
            (((Runner.run ⟨a, o⟩).course (s a.name) t').take (order.count i)) d ∧
          forall r result, d = .done r result -> (runAgent s o t' a).2 = ⟨a, r, result⟩) ∧
      (forall fs : List Finished, (interleave s t (start o p) order).2 = fs.map Finished.atEnd ->
        (fs = p.agents.map fun a => (runAgent s o t' a).2) ∧
          fs = (runAgents s o t p.agents).2 ∧
          List.Forall₂ (fun a x => (runAgent s o t' a).2.ReportedAs x) p.agents
            (fs.map Finished.report)) ∧
      exists (more : List Nat) (fs : List Finished),
        (interleave s t (start o p) (order ++ more)).2 = fs.map Finished.atEnd := by
  refine ⟨?_, ?_, ?_, ?_⟩
  · apply List.ext_getElem?
    intro i
    rw [List.getElem?_map, getElem?_interleave_start hs t t', Option.map_map]
    exact congrFun Option.map_id_fun p.agents[i]?
  · intro i a ha
    refine ⟨_, ?_, (hs a.name).after_iterate t' (order.count i), ?_⟩
    · rw [getElem?_interleave_start hs t t', ha]
      rfl
    · intro r result hdone
      exact runAgent_of_play ((hs a.name).play_eq_of_iterate hdone)
  · intro fs hstopped
    have hfs := eq_map_runAgent hs t t' hstopped
    refine ⟨hfs, hfs.trans (runAgents_eq hs t t' p.agents).symm, ?_⟩
    rw [hfs, List.forall₂_map_right_iff, List.forall₂_map_right_iff, List.forall₂_same]
    intro a _
    exact Finished.reportedAs_report _
  · rcases exists_interleave_eq (o := o) (p := p) hs t t' order with ⟨more, hmore⟩
    exact ⟨more, _, hmore⟩

def pair : Program where
  agents := ["broken", "sound"].map fun name =>
    { name := name
      states := [
        { name := "only"
          conditions := some { clauses := [⟨.contains "done", [.finish]⟩], fallback := [] } }] }

def halfDown : Surroundings Nat
  | name, n, .complete _ _ =>
      (if name == "broken" then .error (.model "down") else .ok (.ofRole .assistant "done"), n + 1)
  | _, n, .search _ _ => (.ok [], n + 1)
  | _, n, .execute _ => (.ok (.completed ""), n + 1)
  | _, n, .number _ => ((1 : Nat), n + 1)
  | _, n, .tell _ => ((), n + 1)

/-- The steps of the two are mixed; one fails, and the other comes to its end. -/
theorem pair_run_undisturbed :
    exists (more : List Nat) (fs : List Finished),
      (interleave halfDown 0 (start {} pair) ([1, 0, 1, 0, 1] ++ more)).2 =
        fs.map Finished.atEnd ∧
      fs.map Finished.report = [
        { agent := "broken", status := .failed "LLM error: down", finalState := "only",
          messages := 0, turns := 1 },
        { agent := "sound", status := .terminated, finalState := "only", messages := 1,
          turns := 1 }] := by
  have hs : forall name, Dialogue.Memoryless (halfDown name) := by
    intro name t t' q
    cases q <;> rfl
  rcases (agents_run_undisturbed hs {} pair 0 0 [1, 0, 1, 0, 1]).right.right.right with
    ⟨more, fs, hstopped⟩
  have hfs := ((agents_run_undisturbed hs {} pair 0 0 _).right.right.left fs hstopped).left
  refine ⟨more, fs, hstopped, ?_⟩
  rw [hfs]
  decide +kernel

end Colloquy
