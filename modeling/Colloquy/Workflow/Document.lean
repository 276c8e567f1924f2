import Colloquy.Yaml.Value

/-!
# Workflow documents

The fixed part of a workflow file: agents with their states, and for each state the
items of its action list and of its condition list as they were written.  A field
may stand once, no other field may stand beside it, and names are taken from the
text of any scalar.
-/

namespace Colloquy
namespace Workflow

structure StateDocument where
  name : String
  model : Option String := none
  action : Option (List Yaml.Value) := none
  conditions : Option (List Yaml.Value) := none

structure AgentDocument where
  name : String
  states : List StateDocument := []

structure Document where
  agents : List AgentDocument

namespace Document

open Yaml (Node Value Error)

/-- An unquoted scalar with no text, as where nothing is written. -/
def isAbsent : Node -> Bool
  | .scalar _ true "" => true
  | _ => false

def text : Node -> Except Error String
  | .scalar _ _ text => .ok text
  | _ => .error .wrongKind

/-- Whether an optional part is there: null and nothing are not. -/
def isPresent : Node -> Except Error Bool
  | .scalar _ false _ => .ok true
  | .scalar none true text => .ok !(text.isEmpty || Value.isNullWord text)
  | .scalar (some tag) true text =>
      if tag == "tag:yaml.org,2002:null" then
        if Value.isNullWord text then .ok false else .error .wrongKind
      else .ok true
  | _ => .ok true

def optional (read : Node -> Except Error α) (n : Node) : Except Error (Option α) := do
  if <- isPresent n then
    let a <- read n
    return some a
  else return none

def items : Node -> Except Error (List Node)
  | .sequence _ items => .ok items
  | n => if isAbsent n then .ok [] else .error .wrongKind

def values (n : Node) : Except Error (List Value) := do
  let ns <- items n
  ns.mapM Value.ofNode

/-- The fields of a mapping, each of them one of `known`. -/
def fieldsFrom (known : List String) :
    List (Node × Node) -> Except Error (List (String × Node))
  | [] => .ok []
  | (k, n) :: rest => do
      let name <- text k
      if !known.contains name then
        throw .unknownField
      let fields <- fieldsFrom known rest
      if fields.any fun f => f.1 == name then
        throw .duplicateField
      return (name, n) :: fields

def fields (known : List String) : Node -> Except Error (List (String × Node))
  | .mapping _ entries => fieldsFrom known entries
  | n => if isAbsent n then .ok [] else .error .wrongKind

def field? (fs : List (String × Node)) (name : String) : Option Node :=
  (fs.find? fun f => f.1 == name).map Prod.snd

def required (fs : List (String × Node)) (name : String) : Except Error Node :=
  match field? fs name with
  | some n => .ok n
  | none => .error .missingField

def optionalField (fs : List (String × Node)) (name : String)
    (read : Node -> Except Error α) : Except Error (Option α) :=
  match field? fs name with
  | some n => optional read n
  | none => .ok none

def state (n : Node) : Except Error StateDocument := do
  let fs <- fields ["name", "model", "action", "conditions"] n
  let name <- required fs "name"
  let name <- text name
  let model <- optionalField fs "model" text
  let action <- optionalField fs "action" values
  let conditions <- optionalField fs "conditions" values
  return { name := name, model := model, action := action, conditions := conditions }

def agent (n : Node) : Except Error AgentDocument := do
  let fs <- fields ["name", "states"] n
  let name <- required fs "name"
  let name <- text name
  match field? fs "states" with
  | none => return { name := name }
  | some n =>
      let ns <- items n
      let states <- ns.mapM state
      return { name := name, states := states }

def ofNode (n : Node) : Except Error Document := do
  let fs <- fields ["agents"] n
  let agents <- required fs "agents"
  let ns <- items agents
  let agents <- ns.mapM agent
  return { agents := agents }

def ofText (s : String) : Except Error Document := do
  let n <- Node.ofText s
  ofNode n

end Document
end Workflow
end Colloquy
