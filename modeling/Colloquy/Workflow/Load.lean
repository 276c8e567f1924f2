import Colloquy.Workflow.Body
import Colloquy.Workflow.Document
import Colloquy.Workflow.Program

/-!
# Loading workflows

A document becomes a program if its agents and states have names of their own, each
list of actions and conditions has one of the accepted shapes, and control never runs
off the end of a state.  The first fault in the order of the document is reported.
-/

namespace Colloquy
namespace Workflow

open Yaml (Value)

/-- The first name in a list that has stood in it before. -/
def firstRepeated (seen : List String) : List String -> Option String
  | [] => none
  | name :: rest => if seen.contains name then some name else firstRepeated (name :: seen) rest

/-- The key and the body of a mapping with one entry whose key is a string. -/
def singleEntry? (v : Value) : Option (String × Value) :=
  match v.mapping? with
  | some [(key, body)] => key.string?.map fun name => (name, body)
  | _ => none

namespace Load

abbrev Check (α : Type) := Except StateError α

def template (text : String) : Check Template :=
  match Template.parse text with
  | .ok t => .ok t
  | .error e => .error (.unknownFunction e.name)

def malformed (index : Nat) (reason : ActionError) : StateError :=
  .malformedAction index reason

def messageBody (index : Nat) (body : Value) : Check MessageBody :=
  match body with
  | .string text => .ok { text := text }
  | .mapping entries =>
      match MessageBody.ofEntries entries with
      | .ok b => .ok b
      | .error e => .error (malformed index (.body e))
  | _ => .error (malformed index .messageBody)

def message (index : Nat) (body : Value) : Check Action := do
  let b <- messageBody index body
  let t <- template b.text
  return .message t (b.role.getD .user) (b.importance.getD .medium) b.ttl

def goto (known : List String) (index : Nat) (body : Value) : Check Action :=
  match body.string? with
  | none => .error (malformed index .gotoTarget)
  | some target =>
      if known.contains target then .ok (.goto target) else .error (.unknownTarget target)

def systemMessage (index : Nat) (body : Value) : Check Action :=
  match body.string? with
  | none => .error (malformed index .systemText)
  | some text => (template text).map .systemMessage

/-- One item of an action list; `known` are the states that it may go to. -/
def action (known : List String) (index : Nat) (v : Value) : Check Action :=
  match v with
  | .string word =>
      if word == "end" then .ok .finish else .error (malformed index (.unknown word))
  | v =>
      match singleEntry? v with
      | none => .error (malformed index .shape)
      | some (key, body) =>
          if key == "goto" then goto known index body
          else if key == "system_message" then systemMessage index body
          else if key == "message" then message index body
          else .error (malformed index (.unknown key))

/-- The items from `index` on. -/
def actionsFrom (known : List String) (index : Nat) : List Value -> Check (List Action)
  | [] => .ok []
  | v :: rest => do
      let a <- action known index v
      let more <- actionsFrom known (index + 1) rest
      return a :: more

/-- The place behind the first transfer, if there is an action. -/
def afterTransfer? (actions : List Action) : Option Nat :=
  match actions.findIdx? Action.isTransfer with
  | some position => if position + 1 < actions.length then some (position + 1) else none
  | none => none

def actions (known : List String) (vs : List Value) : Check (List Action) := do
  let as <- actionsFrom known 0 vs
  match afterTransfer? as with
  | some index => throw (.actionAfterTransfer index)
  | none => return as

def predicate (index : Nat) (b : IfBody) : Check Predicate :=
  match b.contains, b.pattern with
  | some needle, none => .ok (.contains needle)
  | none, some source =>
      match Pattern.ofText source with
      | .ok p => .ok (.satisfies p)
      | .error e => .error (.invalidPattern source e)
  | _, _ => .error (.malformedCondition index .predicate)

def clause (known : List String) (index : Nat) (body : Value) : Check Clause :=
  match IfBody.ofValue body with
  | .error e => .error (.malformedCondition index (.body e))
  | .ok b => do
      let p <- predicate index b
      let as <- actions known b.action
      return ⟨p, as⟩

def fallback (known : List String) (index : Nat) (body : Value) : Check (List Action) :=
  match DefaultBody.ofValue body with
  | .error e => .error (.malformedCondition index (.body e))
  | .ok b => actions known b.action

/-- The conditions from `index` on.  The default must be the last of them. -/
def conditionsFrom (known : List String) (index : Nat) : List Value -> Check Conditions
  | [] => .error .missingDefault
  | v :: rest =>
      match singleEntry? v with
      | none => .error (.malformedCondition index .shape)
      | some (key, body) =>
          if key == "if" then do
            let c <- clause known index body
            let more <- conditionsFrom known (index + 1) rest
            return { more with clauses := c :: more.clauses }
          else if key == "default" then do
            let as <- fallback known index body
            if rest.isEmpty then return ⟨[], as⟩ else throw .defaultNotLast
          else .error (.malformedCondition index (.unknown key))

def optional (f : α -> Check β) : Option α -> Check (Option β)
  | none => .ok none
  | some a => (f a).map some

/-- The last action of the list hands control on. -/
def endsInTransfer (actions : Option (List Action)) : Bool :=
  ((actions.bind List.getLast?).map Action.isTransfer).getD false

def stateBody (known : List String) (d : StateDocument) : Check State := do
  if d.action.isNone && d.conditions.isNone then
    throw .missingBody
  let entry <- optional (actions known) d.action
  let conditions <- optional (conditionsFrom known 0) d.conditions
  if conditions.isNone && !endsInTransfer entry then
    throw .fallsThrough
  return { name := d.name, model := d.model, entry := entry, conditions := conditions }

def state (agent : String) (known : List String) (d : StateDocument) : Except LoadError State :=
  match stateBody known d with
  | .ok s => .ok s
  | .error e => .error (.inState agent d.name e)

def agent (d : AgentDocument) : Except LoadError Agent := do
  if d.states.isEmpty then
    throw (.emptyAgent d.name)
  let names := d.states.map StateDocument.name
  match firstRepeated [] names with
  | some name => throw (.duplicateState d.name name)
  | none => pure ()
  let states <- d.states.mapM (state d.name names)
  return ⟨d.name, states⟩

/-- The agents of a document, of which those named `seen` came before. -/
def agentsFrom (seen : List String) : List AgentDocument -> Except LoadError (List Agent)
  | [] => .ok []
  | d :: rest => do
      if seen.contains d.name then
        throw (.duplicateAgent d.name)
      let a <- agent d
      let more <- agentsFrom (d.name :: seen) rest
      return a :: more

end Load

namespace Program

def ofDocument (d : Document) : Except LoadError Program := do
  if d.agents.isEmpty then
    throw .noAgents
  let agents <- Load.agentsFrom [] d.agents
  return ⟨agents⟩

/-- The program in a workflow file with the given text. -/
def ofText (text : String) : Except LoadError Program :=
  match Document.ofText text with
  | .error e => .error (.yaml e)
  | .ok d => ofDocument d

end Program
end Workflow
end Colloquy
