import Colloquy.Service

/-!
# How a run can fail
-/

namespace Colloquy

inductive RunError where
  | tooManyTransitions (agent : String) (limit : Nat)
  | tooManyTurns (agent : String) (limit : Nat)
  | unknownState (target : String)
  | noWayOut (state : String)
  | noSuchState (index : Nat)
  /-- A service failed. -/
  | service (error : ServiceError)
deriving DecidableEq, Repr

namespace RunError

def message : RunError -> String
  | tooManyTransitions agent limit =>
      "Workflow error: Agent '" ++ agent ++ "' exceeded " ++ toString limit ++
        " state transitions"
  | tooManyTurns agent limit =>
      "Workflow error: Agent '" ++ agent ++ "' exceeded " ++ toString limit ++
        " completion turns"
  | unknownState target => "Workflow error: Unknown state '" ++ target ++ "'"
  | noWayOut state => "Workflow error: State '" ++ state ++ "' has no transition out"
  | noSuchState index => "Internal error: State index " ++ toString index ++ " is out of range"
  | service e => e.message

end RunError
end Colloquy
