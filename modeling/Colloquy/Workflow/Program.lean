import Colloquy.Message
import Colloquy.Pattern
import Colloquy.Template

/-!
# Workflow programs

A program is a list of agents, each a state machine.  On entry to a state its actions
run; after that the first clause that the latest reply of the model satisfies, or
else the default, says what happens next.
-/

namespace Colloquy
namespace Workflow

inductive Action where
  | goto (target : String)
  | message (template : Template) (role : Role) (importance : Importance) (ttl : Option Nat)
  | systemMessage (template : Template)
  | finish
deriving DecidableEq

namespace Action

/-- The action hands control elsewhere. -/
def isTransfer : Action -> Bool
  | goto _ => true
  | message .. => false
  | systemMessage _ => false
  | finish => true

end Action

/-- A test of the latest reply. -/
inductive Predicate where
  | contains (needle : String)
  | satisfies (pattern : Pattern)
deriving DecidableEq

/-- `needle` is a stretch of the list. -/
def hasInfix (needle : List Char) : List Char -> Bool
  | [] => needle.isEmpty
  | c :: rest => needle.isPrefixOf (c :: rest) || hasInfix needle rest

namespace Predicate

def holds (p : Predicate) (reply : String) : Bool :=
  match p with
  | contains needle => hasInfix needle.toList reply.toList
  | satisfies pattern => pattern.isMatch reply

end Predicate

structure Clause where
  predicate : Predicate
  actions : List Action
deriving DecidableEq

/-- Clauses in the order in which they are tried, and what runs when none holds. -/
structure Conditions where
  clauses : List Clause
  fallback : List Action
deriving DecidableEq

structure State where
  name : String
  model : Option String := none
  entry : Option (List Action) := none
  conditions : Option Conditions := none
deriving DecidableEq

namespace State

def entryActions (s : State) : List Action :=
  s.entry.getD []

end State

structure Agent where
  name : String
  states : List State
deriving DecidableEq

namespace Agent

/-- The state in which an agent begins. -/
def entryIndex (_ : Agent) : Nat :=
  0

def stateIndex? (a : Agent) (name : String) : Option Nat :=
  a.states.findIdx? fun s => s.name == name

end Agent

structure Program where
  agents : List Agent
deriving DecidableEq

namespace Program

def agent? (p : Program) (name : String) : Option Agent :=
  p.agents.find? fun a => a.name == name

end Program
end Workflow
end Colloquy
