import Colloquy.Message
import Colloquy.Script
import Colloquy.Snippet

/-!
# What an agent relies on

A running agent asks the services around it for replies, snippets and the outcome of
scripts, and tells the front end what it does.  Every question has a type of answers;
a service may also fail.
-/

namespace Colloquy

/-- How a service reports that it failed. -/
inductive ServiceError where
  | model (detail : String)
  | retrieval (detail : String)
  | execution (detail : String)
deriving DecidableEq, Repr

namespace ServiceError

def message : ServiceError -> String
  | model detail => "LLM error: " ++ detail
  | retrieval detail => "Retrieval error: " ++ detail
  | execution detail => "Execution error: " ++ detail

end ServiceError

/-- Why a service cannot be set up. -/
structure SetupError where
  detail : String
deriving DecidableEq, Repr

namespace SetupError

def message (e : SetupError) : String :=
  "Configuration error: " ++ e.detail

end SetupError

/-- What a running agent does that others may want to follow. -/
inductive Event where
  /-- The agent begins a visit to the state with this index by entering it. -/
  | entered (state : Nat)
  /-- The clause with this index was tried. -/
  | judged (clause : Nat) (holds : Bool)
  /-- The visit goes on with the actions of a clause, or of the default. -/
  | branched (clause : Option Nat)
  /-- The agent goes on to the state with this name. -/
  | went (target : String)
  /-- A message was appended to the transcript. -/
  | appended (message : Message)
deriving DecidableEq, Repr

inductive Query where
  /-- The next message of a conversation, by the given model if one is named. -/
  | complete (model : Option String) (context : List Message)
  /-- The snippets nearest to a text. -/
  | search (text : String) (limit : Nat)
  | execute (source : String)
  /-- The number of the first of some extracts, which are shown to the user. -/
  | number (snippets : List Snippet)
  | tell (event : Event)
deriving DecidableEq, Repr

namespace Query

def Answer : Query -> Type
  | complete _ _ => Except ServiceError Message
  | search _ _ => Except ServiceError (List Snippet)
  | execute _ => Except ServiceError Script.Outcome
  | number _ => Nat
  | tell _ => Unit

end Query
end Colloquy
