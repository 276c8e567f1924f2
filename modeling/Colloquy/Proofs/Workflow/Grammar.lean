import Mathlib.Data.List.Forall2
import Colloquy.Proofs.Template.Reading
import Colloquy.Workflow.Load

/-!
# The grammar of workflow documents

What a document must look like to be a workflow, said without loading it, and which
program a document stands for.  What the bodies of clauses and of long messages
read as and which patterns compile is taken from `Body` and `Pattern`.
-/

namespace Colloquy

namespace Yaml

inductive Value.IsPlain : Value -> Prop where
  | null : IsPlain null
  | bool (b : Bool) : IsPlain (bool b)
  | int (i : Int) : IsPlain (int i)
  | float (x : Float) : IsPlain (float x)
  | string (s : String) : IsPlain (string s)
  | sequence {items : List Value} :
      (forall v, v ∈ items -> IsPlain v) -> IsPlain (sequence items)
  | mapping {entries : List (Value × Value)} :
      (forall e, e ∈ entries -> IsPlain e.1) -> (forall e, e ∈ entries -> IsPlain e.2) ->
        IsPlain (mapping entries)

end Yaml

namespace Workflow

open Yaml (Value)
open Template (KnownCalls Reads)

/-- A mapping with one entry, whose key is a string. -/
def single (key : String) (body : Value) : Value :=
  .mapping [(.string key, body)]

/-!
# Action lists
-/

def IsTransferItem (v : Value) : Prop :=
  v = .string "end" ∨ exists target, v = single "goto" (.string target)

/-- An item of an action list; it may go to the `known` states. -/
inductive ActionItem (known : List String) : Value -> Prop where
  | finish : ActionItem known (.string "end")
  | goto {target : String} : target ∈ known ->
      ActionItem known (single "goto" (.string target))
  | systemMessage {text : String} : KnownCalls text ->
      ActionItem known (single "system_message" (.string text))
  | message {text : String} : KnownCalls text ->
      ActionItem known (single "message" (.string text))
  | longMessage {entries : List (Value × Value)} {b : MessageBody} :
      MessageBody.ofEntries entries = .ok b -> KnownCalls b.text ->
        ActionItem known (single "message" (.mapping entries))

structure ActionList (known : List String) (items : List Value) : Prop where
  shaped : forall v, v ∈ items -> ActionItem known v
  /-- An item with another one behind it is no transfer. -/
  closed : items.IsChain fun v _ => ¬IsTransferItem v

inductive ActionItem.Means : Value -> Action -> Prop where
  | finish : Means (.string "end") .finish
  | goto {target : String} : Means (single "goto" (.string target)) (.goto target)
  | systemMessage {text : String} {t : Template} : Reads text t ->
      Means (single "system_message" (.string text)) (.systemMessage t)
  | message {text : String} {t : Template} : Reads text t ->
      Means (single "message" (.string text)) (.message t .user .medium none)
  | longMessage {entries : List (Value × Value)} {b : MessageBody} {t : Template} :
      MessageBody.ofEntries entries = .ok b -> Reads b.text t ->
        Means (single "message" (.mapping entries))
          (.message t (b.role.getD .user) (b.importance.getD .medium) b.ttl)

def ActionList.Means (items : List Value) (actions : List Action) : Prop :=
  List.Forall₂ ActionItem.Means items actions

/-!
# Condition lists
-/

/-- A clause has exactly one test: a stretch of text or a pattern that compiles. -/
inductive HasTest (b : IfBody) : Prop where
  | contains {needle : String} : b.contains = some needle -> b.pattern = none -> HasTest b
  | satisfies {source : String} {p : Pattern} : b.contains = none -> b.pattern = some source ->
      Pattern.ofText source = .ok p -> HasTest b

inductive IfItem (known : List String) : Value -> Prop where
  | intro {body : Value} {b : IfBody} : IfBody.ofValue body = .ok b -> HasTest b ->
      ActionList known b.action -> IfItem known (single "if" body)

inductive DefaultItem (known : List String) : Value -> Prop where
  | intro {body : Value} {b : DefaultBody} : DefaultBody.ofValue body = .ok b ->
      ActionList known b.action -> DefaultItem known (single "default" body)

inductive ConditionList (known : List String) : List Value -> Prop where
  | intro {clauses : List Value} {last : Value} :
      (forall v, v ∈ clauses -> IfItem known v) -> DefaultItem known last ->
        ConditionList known (clauses ++ [last])

inductive HasTest.Means (b : IfBody) : Predicate -> Prop where
  | contains {needle : String} : b.contains = some needle -> b.pattern = none ->
      Means b (.contains needle)
  | satisfies {source : String} {p : Pattern} : b.contains = none -> b.pattern = some source ->
      Pattern.ofText source = .ok p -> Means b (.satisfies p)

inductive IfItem.Means : Value -> Clause -> Prop where
  | intro {body : Value} {b : IfBody} {c : Clause} : IfBody.ofValue body = .ok b ->
      HasTest.Means b c.predicate -> ActionList.Means b.action c.actions ->
        Means (single "if" body) c

inductive DefaultItem.Means : Value -> List Action -> Prop where
  | intro {body : Value} {b : DefaultBody} {actions : List Action} :
      DefaultBody.ofValue body = .ok b -> ActionList.Means b.action actions ->
        Means (single "default" body) actions

inductive ConditionList.Means : List Value -> Conditions -> Prop where
  | intro {clauses : List Value} {last : Value} {c : Conditions} :
      List.Forall₂ IfItem.Means clauses c.clauses -> DefaultItem.Means last c.fallback ->
        Means (clauses ++ [last]) c

/-!
# Documents
-/

structure StateDocument.IsGrammatical (known : List String) (d : StateDocument) : Prop where
  body : d.action ≠ none ∨ d.conditions ≠ none
  action : forall items, d.action = some items -> ActionList known items
  conditions : forall items, d.conditions = some items -> ConditionList known items
  /-- Without conditions the entry actions hand control on. -/
  wayOut : d.conditions = none ->
    exists items last, d.action = some items ∧ items.getLast? = some last ∧ IsTransferItem last

structure AgentDocument.IsGrammatical (d : AgentDocument) : Prop where
  inhabited : d.states ≠ []
  distinct : (d.states.map StateDocument.name).Nodup
  states : forall s, s ∈ d.states -> s.IsGrammatical (d.states.map StateDocument.name)

structure Document.IsGrammatical (d : Document) : Prop where
  inhabited : d.agents ≠ []
  distinct : (d.agents.map AgentDocument.name).Nodup
  agents : forall a, a ∈ d.agents -> a.IsGrammatical

structure StateDocument.Means (d : StateDocument) (s : State) : Prop where
  name : s.name = d.name
  model : s.model = d.model
  entry : Option.Rel ActionList.Means d.action s.entry
  conditions : Option.Rel ConditionList.Means d.conditions s.conditions

structure AgentDocument.Means (d : AgentDocument) (a : Agent) : Prop where
  name : a.name = d.name
  states : List.Forall₂ StateDocument.Means d.states a.states

/-- The program has the agents, states, clauses and actions of the document, in its order. -/
def Document.Means (d : Document) (p : Program) : Prop :=
  List.Forall₂ AgentDocument.Means d.agents p.agents

def StateDocument.IsPlain (d : StateDocument) : Prop :=
  forall items, d.action = some items ∨ d.conditions = some items ->
    forall v, v ∈ items -> v.IsPlain

def Document.IsPlain (d : Document) : Prop :=
  forall a, a ∈ d.agents -> forall s, s ∈ a.states -> s.IsPlain

end Workflow
end Colloquy
