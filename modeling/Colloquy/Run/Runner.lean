import Colloquy.Run.Error
import Colloquy.Template.Render
import Colloquy.Transcript.Pruning
import Colloquy.Workflow.Program

/-!
# Running an agent

An agent visits one state after the other.  A visit that evaluates conditions owes one
reply of the model: the first clause that is tried or the first template with a call
asks for it, unless the transcript already ends in a reply.  When a visit stays in its
state, the reply for the next one is asked for at once.  The numbers of visits and of
requests are limited.
-/

namespace Colloquy

open Workflow (Action Agent Clause Conditions State)

structure Options where
  maxTransitions : Nat := 1000
  maxTurns : Nat := 100
  /-- The snippets that a search asks for. -/
  topK : Nat := 5
  pruning : Pruning.Policy := {}
deriving DecidableEq, Repr

inductive Phase where
  | entry
  | evaluating
  | awaitingCompletion
  | terminated
  | failed
deriving DecidableEq, Repr

structure Runner where
  /-- The index of the state that the agent is in. -/
  state : Nat := 0
  phase : Phase := .entry
  transcript : Transcript := []
  /-- Visits so far. -/
  transitions : Nat := 0
  /-- Requests for a reply so far. -/
  turns : Nat := 0
  /-- The visit still owes a request. -/
  turnOwed : Bool := false
  /-- The reply for the visit was asked for at the end of the one before. -/
  replyReady : Bool := false
  /-- A message was appended after the latest reply. -/
  unanswered : Bool := false
deriving DecidableEq, Repr

namespace Runner

/-- A part of a run. -/
abbrev Step (α : Type) := Act Runner RunError α

/-- Where control goes after a list of actions. -/
inductive Flow where
  | stay
  | goto (index : Nat)
  | finish
deriving DecidableEq, Repr

/-- What a run of one agent depends on besides the services. -/
structure Setting where
  agent : Agent
  options : Options

def append (m : Message) : Step Unit := do
  Act.tell (.appended m)
  Act.modify fun r => { r with transcript := r.transcript.push m, unanswered := true }

/-- Asks the model for a reply and appends it. -/
def request (w : Setting) (state : State) : Step Unit := do
  Act.modify fun r => { r with turns := r.turns + 1 }
  let r <- Act.get
  if w.options.maxTurns < r.turns then
    Act.fail (.tooManyTurns w.agent.name w.options.maxTurns)
  else
    let policy := w.options.pruning
    let context := Transcript.context policy r.transcript
    Act.modify fun r =>
      { r with
        transcript := Transcript.afterRequest policy r.transcript
        phase := .awaitingCompletion }
    let reply <- Act.complete .service state.model context
    Act.modify fun r => { r with phase := .evaluating }
    append { reply with role := .assistant }
    Act.modify fun r => { r with unanswered := false }

/-- Settles the request that the visit owes.  It is only made when the conversation
has moved on since the latest reply. -/
def observe (w : Setting) (state : State) : Step Unit := do
  let r <- Act.get
  if r.turnOwed then
    Act.modify fun r => { r with turnOwed := false }
    if r.unanswered || (Transcript.lastReply? r.transcript).isNone then request w state
    else pure ()
  else pure ()

def render (w : Setting) (state : State) (t : Template) : Step String := do
  if t.hasCalls then observe w state
  let r <- Act.get
  let reply := (Transcript.lastReply? r.transcript).map Message.text
  Template.Renderer.render ⟨.service, w.options.topK⟩ t reply

def execute (w : Setting) (state : State) : List Action -> Step Flow
  | [] => pure .stay
  | .goto target :: _ =>
      match w.agent.stateIndex? target with
      | some index => do
          Act.tell (.went target)
          pure (.goto index)
      | none => Act.fail (.unknownState target)
  | .finish :: _ => pure .finish
  | .systemMessage t :: rest => do
      let text <- render w state t
      append (.ofRole .system text)
      execute w state rest
  | .message t role importance ttl :: rest => do
      let text <- render w state t
      append { role := role, text := text, importance := importance, ttl := ttl }
      execute w state rest

/-- The actions of the first clause that holds, else those of the default. -/
def selectFrom (w : Setting) (state : State) (fallback : List Action) :
    Nat -> List Clause -> Step (List Action)
  | _, [] => do
      Act.tell (.branched none)
      pure fallback
  | index, clause :: rest => do
      observe w state
      let r <- Act.get
      let holds := match Transcript.lastReply? r.transcript with
        | some reply => clause.predicate.holds reply.text
        | none => false
      Act.tell (.judged index holds)
      if holds then
        Act.tell (.branched (some index))
        pure clause.actions
      else selectFrom w state fallback (index + 1) rest

def select (w : Setting) (state : State) (conditions : Conditions) : Step (List Action) :=
  selectFrom w state conditions.fallback 0 conditions.clauses

/-- A visit owes a request, unless the visit before has made it. -/
def beginVisit : Step Unit :=
  Act.modify fun r =>
    { r with
      turnOwed := !r.replyReady
      replyReady := false
      phase := .evaluating }

/-- A visit that stays asks for the reply that the next one judges. -/
def finishStay (w : Setting) (state : State) : Step Unit := do
  Act.modify fun r => { r with turnOwed := false }
  request w state
  Act.modify fun r => { r with replyReady := true }

/-- The conditions of a state. -/
def evaluate (w : Setting) (state : State) : Step Flow :=
  match state.conditions with
  | none => Act.fail (.noWayOut state.name)
  | some conditions => do
      beginVisit
      let actions <- select w state conditions
      let flow <- execute w state actions
      if flow == .stay then finishStay w state
      pure flow

/-- One visit; the entry actions run only when the state is entered. -/
def visit (w : Setting) (index : Nat) (entering : Bool) (state : State) : Step Flow :=
  if entering then do
    Act.tell (.entered index)
    Act.modify fun r => { r with phase := .entry }
    let flow <- execute w state state.entryActions
    if flow == .stay then evaluate w state else pure flow
  else evaluate w state

/-- Visits, of which `left` more are allowed. -/
def drive (w : Setting) : (left : Nat) -> (index : Nat) -> (entering : Bool) -> Step Unit
  | 0, _, _ => do
      Act.modify fun r => { r with transitions := r.transitions + 1 }
      Act.fail (.tooManyTransitions w.agent.name w.options.maxTransitions)
  | left + 1, index, entering => do
      Act.modify fun r => { r with transitions := r.transitions + 1, state := index }
      match w.agent.states[index]? with
      | none => Act.fail (.noSuchState index)
      | some state =>
          match <- visit w index entering state with
          | .goto next => drive w left next true
          | .finish => pure ()
          | .stay => drive w left index false

/-- The whole run of an agent. -/
def run (w : Setting) : Dialogue Runner (Except RunError Unit) :=
  (drive w w.options.maxTransitions w.agent.entryIndex true {}).bind fun r result =>
    match result with
    | .ok () => .done { r with phase := .terminated } (.ok ())
    | .error e => .done { r with phase := .failed } (.error e)

end Runner
end Colloquy
