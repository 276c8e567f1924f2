import Colloquy.Configuration
import Colloquy.Text.Bytes
import Colloquy.Toml.Parse

/-!
# Reading configurations

A configuration is written in TOML.  A part of it may also be given as an array, whose
items stand for the settings in their order.  Settings that are not known do not count.
-/

namespace Colloquy
namespace Configuration

/-- The settings of a part, by name or by position. -/
inductive Part where
  | named (settings : Toml.Table)
  | listed (items : List Toml.Value)

namespace Part

def ofValue? : Toml.Value -> Option Part
  | .table settings => some (named settings)
  | .array items => some (listed items)
  | .datetime _ => some (named [])
  | _ => none

def find? (p : Part) (position : Nat) (name : String) : Option Toml.Value :=
  match p with
  | named settings => settings.find? name
  | listed items => items[position]?

/-- A setting, or its default if it is not given. -/
def setting? (p : Part) (position : Nat) (name : String) (read : Toml.Value -> Option α)
    (default : α) : Option α :=
  match p.find? position name with
  | some v => read v
  | none => some default

end Part

def string? : Toml.Value -> Option String
  | .string s => some s
  | _ => none

def boolean? : Toml.Value -> Option Bool
  | .boolean b => some b
  | _ => none

/-- A number of 64 bits. -/
def count? : Toml.Value -> Option Nat
  | .integer n => if 0 <= n && n < Int.pow 2 64 then some n.toNat else none
  | _ => none

/-- One of several names, alone or with an empty value. -/
def choice? (ofName? : String -> Option α) : Toml.Value -> Option α
  | .string name => ofName? name
  | .table [(name, .table [])] => ofName? name
  | .table [(name, .array [])] => ofName? name
  | _ => none

def logging? (v : Toml.Value) : Option Logging := do
  let p <- Part.ofValue? v
  return {
    level := <- p.setting? 0 "level" string? "info"
    json := <- p.setting? 1 "json" boolean? false }

/-!
# The backend
-/

def ollama? (p : Part) : Option Backend := do
  return .ollama (<- p.setting? 0 "base_url" string? Backend.defaultOllamaUrl)
    (<- p.setting? 1 "model" string? Backend.defaultOllamaModel)
    (<- p.setting? 2 "embedding_model" string? Backend.defaultOllamaEmbeddingModel)

def openAi? (p : Part) : Option Backend := do
  return .openAi (<- p.setting? 0 "api_key_env" string? Backend.defaultKeyVariable)
    (<- p.setting? 1 "api_base" string? Backend.defaultOpenAiBase)
    (<- p.setting? 2 "model" string? Backend.defaultOpenAiModel)
    (<- p.setting? 3 "embedding_model" string? Backend.defaultOpenAiEmbeddingModel)

/-- No integer of a part that is kept back until its kind is known may be longer. -/
def exceedsWord (n : Int) : Bool :=
  n < -Int.pow 2 63 || Int.pow 2 64 <= n

/-- The name of a backend and its settings.  When the settings are listed the name is
the first item, and there are no more items than settings. -/
def backend? (v : Toml.Value) : Option Backend := do
  if v.anyInteger exceedsWord then none
  else
    match v with
    | .table settings =>
        let kind <- (Toml.Table.find? settings "type").bind string?
        if kind == "ollama" then ollama? (.named settings)
        else if kind == "openai" then openAi? (.named settings)
        else none
    | .array (kind :: items) =>
        let kind <- string? kind
        if kind == "ollama" && items.length <= 3 then ollama? (.listed items)
        else if kind == "openai" && items.length <= 4 then openAi? (.listed items)
        else none
    | _ => none

/-!
# The other parts
-/

def retrieval? (v : Toml.Value) : Option Retrieval := do
  let p <- Part.ofValue? v
  return {
    indexPath := <- p.setting? 0 "index_path" (fun v => (string? v).map some) none
    collection := <- p.setting? 1 "collection" string? "snippets"
    topK := <- p.setting? 2 "top_k" count? 5
    chunkSize := <- p.setting? 3 "chunk_size" count? 1000
    chunkOverlap := <- p.setting? 4 "chunk_overlap" count? 200 }

def executor? (v : Toml.Value) : Option Script.Executor := do
  let p <- Part.ofValue? v
  return {
    interpreter := <- p.setting? 0 "interpreter" string? "python3"
    timeoutSeconds := <- p.setting? 1 "timeout_secs" count? 30
    maxOutputBytes := <- p.setting? 2 "max_output_bytes" count? 50000 }

def pruning? (v : Toml.Value) : Option Pruning.Policy := do
  let p <- Part.ofValue? v
  return {
    trigger := <- p.setting? 0 "trigger" (choice? Pruning.Trigger.ofName?) .tokenBudget
    maxTokens := <- p.setting? 1 "max_tokens" count? 8000
    tieBreak := <- p.setting? 2 "tie_break" (choice? Pruning.TieBreak.ofName?) .oldestFirst }

def limits? (v : Toml.Value) : Option Limits := do
  let p <- Part.ofValue? v
  return {
    maxTransitions := <- p.setting? 0 "max_transitions" count? 1000
    maxTurns := <- p.setting? 1 "max_turns" count? 100
    pruning := <- p.setting? 2 "pruning" pruning? {} }

/-- No integer at all may be longer than this. -/
def exceedsDoubleWord (n : Int) : Bool :=
  n < -Int.pow 2 127 || Int.pow 2 128 <= n

def ofTable? (t : Toml.Table) : Option Configuration := do
  let p := Part.named t
  if (Toml.Value.table t).anyInteger exceedsDoubleWord then none
  else
    return {
      logging := <- p.setting? 0 "logging" logging? {}
      backend := <- p.setting? 1 "llm" backend? .default
      retrieval := <- p.setting? 2 "retrieval" retrieval? {}
      executor := <- p.setting? 3 "execution" executor? {}
      limits := <- p.setting? 4 "runner" limits? {} }

/-- The configuration that a text describes. -/
def ofText? (cs : List Char) : Option Configuration :=
  (Toml.parse? cs).bind ofTable?

end Configuration
end Colloquy
