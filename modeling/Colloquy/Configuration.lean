import Colloquy.Run.Runner
import Colloquy.Script.Capture
import Colloquy.Text.Blank
import Colloquy.Variables

/-!
# Configurations

A configuration names the language model and sets limits.  Every setting has a default.
Only a configuration whose limits make sense is used.
-/

namespace Colloquy

namespace Configuration

structure Logging where
  level : String := "info"
  json : Bool := false
deriving DecidableEq, Repr

/-- Which service writes replies and embeddings.  The key of a service is not kept in a
configuration but in a variable. -/
inductive Backend where
  | ollama (baseUrl model embeddingModel : String)
  | openAi (keyVariable base model embeddingModel : String)
deriving DecidableEq, Repr

namespace Backend

def defaultOllamaUrl : String := "http://localhost:11434"
def defaultOllamaModel : String := "llama3.2"
def defaultOllamaEmbeddingModel : String := "nomic-embed-text"
def defaultKeyVariable : String := "OPENAI_API_KEY"
def defaultOpenAiBase : String := "https://api.openai.com/v1"
def defaultOpenAiModel : String := "gpt-4o-mini"
def defaultOpenAiEmbeddingModel : String := "text-embedding-3-small"

def default : Backend :=
  ollama defaultOllamaUrl defaultOllamaModel defaultOllamaEmbeddingModel

end Backend

structure Retrieval where
  /-- The directory of the index, without which nothing is looked up. -/
  indexPath : Option String := none
  collection : String := "snippets"
  topK : Nat := 5
  chunkSize : Nat := 1000
  chunkOverlap : Nat := 200
deriving DecidableEq, Repr

structure Limits where
  maxTransitions : Nat := 1000
  maxTurns : Nat := 100
  pruning : Pruning.Policy := {}
deriving DecidableEq, Repr

end Configuration

structure Configuration where
  logging : Configuration.Logging := {}
  backend : Configuration.Backend := .default
  retrieval : Configuration.Retrieval := {}
  executor : Script.Executor := {}
  limits : Configuration.Limits := {}
deriving DecidableEq, Repr

namespace Configuration

/-- The options of every agent. -/
def options (c : Configuration) : Options where
  maxTransitions := c.limits.maxTransitions
  maxTurns := c.limits.maxTurns
  topK := c.retrieval.topK
  pruning := c.limits.pruning

/-!
# Configurations that make sense
-/

inductive Fault where
  | variableNotSet (name : String)
  | notPositive (setting : String)
  | overlapTooLarge (overlap size : Nat)
  | noInterpreter
deriving DecidableEq, Repr

namespace Fault

def message : Fault -> String
  | variableNotSet name =>
      "Environment variable '" ++ name ++ "' referenced in config is not set"
  | notPositive setting => "Validation error: " ++ setting ++ " must be greater than zero"
  | overlapTooLarge overlap size =>
      "Validation error: retrieval.chunk_overlap (" ++ toString overlap ++
        ") must be smaller than retrieval.chunk_size (" ++ toString size ++ ")"
  | noInterpreter => "Validation error: execution.interpreter must not be empty"

end Fault

/-- The settings that must be positive, in the order in which they are checked. -/
def positiveSettings (c : Configuration) : List (String × Nat) :=
  [("retrieval.top_k", c.retrieval.topK),
    ("retrieval.chunk_size", c.retrieval.chunkSize),
    ("execution.timeout_secs", c.executor.timeoutSeconds),
    ("execution.max_output_bytes", c.executor.maxOutputBytes),
    ("runner.max_transitions", c.limits.maxTransitions),
    ("runner.max_turns", c.limits.maxTurns)]

/-- The key is kept in a variable that is not set. -/
def missingVariable? (v : Variables) (c : Configuration) : Option String :=
  match c.backend with
  | .openAi name _ _ _ => if (v name).isNone then some name else none
  | .ollama _ _ _ => none

/-- The first fault of a configuration. -/
def fault? (v : Variables) (c : Configuration) : Option Fault :=
  match c.missingVariable? v with
  | some name => some (.variableNotSet name)
  | none =>
      match c.positiveSettings.find? fun s => s.2 == 0 with
      | some (setting, _) => some (.notPositive setting)
      | none =>
          if c.retrieval.chunkSize <= c.retrieval.chunkOverlap then
            some (.overlapTooLarge c.retrieval.chunkOverlap c.retrieval.chunkSize)
          else if c.limits.pruning.trigger == .tokenBudget && c.limits.pruning.maxTokens == 0 then
            some (.notPositive "runner.pruning.max_tokens")
          else if (Text.trim c.executor.interpreter).isEmpty then some .noInterpreter
          else none

end Configuration
end Colloquy
