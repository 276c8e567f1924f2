import Colloquy.Json
import Colloquy.Run.Identifier
import Colloquy.Run.Moment
import Colloquy.Run.Report

/-!
# Records of runs

The record of a run is its report as a JSON value, with the number of the run, the time
when it began and how long it took.
-/

namespace Colloquy
namespace Report

def statusJson : Status -> Json
  | .terminated => .object [("status", .string "terminated")]
  | .failed reason => .object [("status", .string "failed"), ("reason", .string reason)]

def agentJson (a : AgentReport) : Json :=
  .object [("agent", .string a.agent), ("status", statusJson a.status),
    ("final_state", .string a.finalState), ("messages", .nat a.messages),
    ("turns", .nat a.turns)]

def record (identifier : Nat) (startedAt : Moment) (milliseconds : Nat) (r : Report) : Json :=
  .object [("run_id", .string (Identifier.text identifier)), ("started_at", .string startedAt.text),
    ("duration_ms", .nat milliseconds), ("agents", .array (r.map agentJson))]

end Report
end Colloquy
