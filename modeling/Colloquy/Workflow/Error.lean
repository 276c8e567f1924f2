import Colloquy.Pattern.Error
import Colloquy.Text.Quoted
import Colloquy.Yaml.Error

/-!
# Why a workflow is rejected

Each fault names the agent, the state and the item it was found in.
-/

namespace Colloquy
namespace Workflow

/-- What was found where something else is expected. -/
inductive Found where
  | null
  | bool (value : Bool)
  | int (value : Int)
  | float (text : String)
  | string (text : String)
  | sequence
  | mapping

namespace Found

def text : Found -> String
  | null => "unit value"
  | bool true => "boolean \x60true\x60"
  | bool false => "boolean \x60false\x60"
  | int i => "integer \x60" ++ toString i ++ "\x60"
  | float t => "floating point \x60" ++ t ++ "\x60"
  | string s => "string " ++ Text.quoted s
  | sequence => "sequence"
  | mapping => "map"

end Found

def ticked (s : String) : String :=
  "\x60" ++ s ++ "\x60"

/-- The alternatives of which one is expected. -/
def oneOf : List String -> String
  | [] => "there are no fields"
  | [a] => "expected " ++ ticked a
  | [a, b] => "expected " ++ ticked a ++ " or " ++ ticked b
  | names => "expected one of " ++ String.intercalate ", " (names.map ticked)

/-- Why the body of a clause or of a message is malformed. -/
inductive BodyError where
  | wrongKind (found : Found) (wanted : String)
  | wrongValue (found : Found) (wanted : String)
  | missingField (name : String)
  | unknownField (name : String) (known : List String)
  | duplicateField (name : String)
  | unknownVariant (name : String) (known : List String)

namespace BodyError

def message : BodyError -> String
  | wrongKind found wanted => "invalid type: " ++ found.text ++ ", expected " ++ wanted
  | wrongValue found wanted => "invalid value: " ++ found.text ++ ", expected " ++ wanted
  | missingField name => "missing field " ++ ticked name
  | unknownField name known => "unknown field " ++ ticked name ++ ", " ++ oneOf known
  | duplicateField name => "duplicate field " ++ ticked name
  | unknownVariant name known => "unknown variant " ++ ticked name ++ ", " ++ oneOf known

end BodyError

inductive ActionError where
  | shape
  | unknown (name : String)
  | gotoTarget
  | systemText
  | messageBody
  | body (error : BodyError)

namespace ActionError

def message : ActionError -> String
  | shape => "expected a single-key mapping or \x60end\x60"
  | unknown name => "unknown action " ++ ticked name
  | gotoTarget => "\x60goto\x60 needs a state name"
  | systemText => "\x60system_message\x60 needs a string"
  | messageBody => "\x60message\x60 needs a string or mapping"
  | body e => e.message

end ActionError

inductive ConditionError where
  | shape
  | unknown (name : String)
  | predicate
  | body (error : BodyError)

namespace ConditionError

def message : ConditionError -> String
  | shape => "expected \x60if\x60 or \x60default\x60"
  | unknown name => "unknown condition kind " ++ ticked name
  | predicate => "\x60if\x60 needs exactly one of \x60contains\x60 or \x60matches\x60"
  | body e => e.message

end ConditionError

inductive StateError where
  | missingBody
  | malformedAction (index : Nat) (reason : ActionError)
  | malformedCondition (index : Nat) (reason : ConditionError)
  | defaultNotLast
  | missingDefault
  | actionAfterTransfer (index : Nat)
  | fallsThrough
  | unknownTarget (target : String)
  | unknownFunction (function : String)
  | invalidPattern (pattern : String) (reason : Pattern.Error)

inductive LoadError where
  | unreadable (path reason : String)
  | yaml (error : Yaml.Error)
  | noAgents
  | duplicateAgent (name : String)
  | emptyAgent (name : String)
  | duplicateState (agent state : String)
  | inState (agent state : String) (error : StateError)

namespace StateError

/-- The part of a message behind the name of the state. -/
def message (state : String) : StateError -> String
  | missingBody => "State " ++ state ++ " has neither \x60action\x60 nor \x60conditions\x60"
  | malformedAction index reason =>
      "State " ++ state ++ " has a malformed action at index " ++ toString index ++ ": " ++
        reason.message
  | malformedCondition index reason =>
      "State " ++ state ++ " has a malformed condition at index " ++ toString index ++ ": " ++
        reason.message
  | defaultNotLast => "State " ++ state ++ ": the \x60default\x60 clause must be the last condition"
  | missingDefault => "State " ++ state ++ ": condition list has no \x60default\x60 clause"
  | actionAfterTransfer index =>
      "State " ++ state ++ ": action at index " ++ toString index ++
        " follows a \x60goto\x60 or \x60end\x60"
  | fallsThrough => "State " ++ state ++ ": action list must end with \x60goto\x60 or \x60end\x60"
  | unknownTarget target =>
      "State " ++ state ++ ": \x60goto\x60 target '" ++ target ++ "' does not exist"
  | unknownFunction function =>
      "State " ++ state ++ ": unknown template function \x60" ++ function ++ "()\x60"
  | invalidPattern pattern reason =>
      "State " ++ state ++ ": invalid pattern '" ++ pattern ++ "': " ++ reason.message

end StateError

namespace LoadError

def message : LoadError -> String
  | unreadable path reason => "Failed to read workflow file " ++ path ++ ": " ++ reason
  | yaml e => "Invalid workflow YAML: " ++ e.message
  | noAgents => "Workflow declares no agents"
  | duplicateAgent name => "Duplicate agent name '" ++ name ++ "'"
  | emptyAgent name => "Agent '" ++ name ++ "' declares no states"
  | duplicateState agent state =>
      "Agent '" ++ agent ++ "' declares state '" ++ state ++ "' more than once"
  | inState agent state e => e.message ("'" ++ agent ++ "." ++ state ++ "'")

end LoadError
end Workflow
end Colloquy
