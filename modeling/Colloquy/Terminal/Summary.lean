import Colloquy.Run.Report
import Colloquy.Terminal.Notice

/-!
# Summaries

What is printed about a workflow before it runs, and about a run when it is over.
-/

namespace Colloquy
namespace Terminal

/-- The agents of a program with their states, in the order of the program. -/
def agents (colored : Bool) (p : Workflow.Program) : String :=
  header colored "Agents" ++ String.join (p.agents.map fun a =>
    item colored
      (a.name ++ " (" ++ String.intercalate " → " (a.states.map Workflow.State.name) ++ ")"))

def statusWord : Status -> String
  | .terminated => "terminated"
  | .failed _ => "failed"

def agentRow (a : AgentReport) : String :=
  tableRow [a.agent, statusWord a.status, a.finalState, toString a.messages, toString a.turns]

/-- The report of a run with a table of its agents. -/
def report (colored : Bool) (run : String) (milliseconds : Nat) (r : Report) : String :=
  header colored "Run report" ++ pair colored "run" run ++
    pair colored "duration" (toString milliseconds ++ " ms") ++ "\n" ++
    tableHeader colored ["Agent", "Status", "State", "Messages", "Turns"] ++
    String.join (r.map agentRow)

def failure (colored : Bool) (a : AgentReport) : String :=
  match a.status with
  | .terminated => ""
  | .failed reason => Notice.error.render colored (a.agent ++ ": " ++ reason)

/-- What goes to the error output with a report: why agents failed. -/
def failures (colored : Bool) (r : Report) : String :=
  String.join (r.map (failure colored))

end Terminal
end Colloquy
