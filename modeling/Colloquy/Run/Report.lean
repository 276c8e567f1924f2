import Colloquy.Run.Runner

/-!
# Running a workflow

All agents of a program run, each with its own transcript; one that fails does not
stop the others.  The report has an entry for each agent, in the order in which they
are declared.
-/

namespace Colloquy

open Workflow (Agent Program)

inductive Status where
  | terminated
  | failed (reason : String)
deriving DecidableEq, Repr

structure AgentReport where
  agent : String
  status : Status
  finalState : String
  messages : Nat
  turns : Nat
deriving DecidableEq, Repr

namespace AgentReport

def isFailed (r : AgentReport) : Bool :=
  match r.status with
  | .terminated => false
  | .failed _ => true

end AgentReport

abbrev Report := List AgentReport

namespace Report

def allTerminated (r : Report) : Bool :=
  r.all fun a => !a.isFailed

def failed (r : Report) : List AgentReport :=
  r.filter AgentReport.isFailed

end Report

/-- An agent that has stopped. -/
structure Finished where
  agent : Agent
  runner : Runner
  result : Except RunError Unit

namespace Finished

/-- The name of the state that the agent stopped in. -/
def stateName (f : Finished) : String :=
  match f.agent.states[f.runner.state]? with
  | some s => s.name
  | none => ""

def report (f : Finished) : AgentReport where
  agent := f.agent.name
  status := match f.result with
    | .ok () => .terminated
    | .error e => .failed e.message
  finalState := f.stateName
  messages := f.runner.transcript.length
  turns := f.runner.turns

end Finished

/-- One who answers the questions of several agents, who are told apart by name. -/
abbrev Surroundings (τ : Type) := String -> Dialogue.Answerer τ

/-- Runs one agent to its end. -/
def runAgent (s : Surroundings τ) (options : Options) (t : τ) (a : Agent) : τ × Finished :=
  let (t, runner, result) := Dialogue.play (s a.name) t (Runner.run ⟨a, options⟩)
  (t, ⟨a, runner, result⟩)

/-- Runs the agents of a program one after the other. -/
def runAgents (s : Surroundings τ) (options : Options) : τ -> List Agent -> τ × List Finished
  | t, [] => (t, [])
  | t, a :: rest =>
      let (t, first) := runAgent s options t a
      let (t, more) := runAgents s options t rest
      (t, first :: more)

/-- An agent under way: the agent and what is left of its run. -/
abbrev UnderWay := Agent × Dialogue Runner (Except RunError Unit)

def start (options : Options) (p : Program) : List UnderWay :=
  p.agents.map fun a => (a, Runner.run ⟨a, options⟩)

/-- Answers the question that the agent at `index` waits with, if it waits. -/
def stepAgent (s : Surroundings τ) (t : τ) (agents : List UnderWay) (index : Nat) :
    τ × List UnderWay :=
  match agents[index]? with
  | some (a, .ask _ q next) =>
      let (answer, t) := s a.name t q
      (t, agents.set index (a, next answer))
  | _ => (t, agents)

/-- Any order of the steps of several agents: the indices of those who take one. -/
def interleave (s : Surroundings τ) (t : τ) (agents : List UnderWay) (order : List Nat) :
    τ × List UnderWay :=
  order.foldl (fun r index => stepAgent s r.1 r.2 index) (t, agents)

end Colloquy
