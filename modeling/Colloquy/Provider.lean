import Colloquy.Configuration
import Colloquy.Index
import Colloquy.Provider.Ollama
import Colloquy.Provider.OpenAi

/-!
# Providers

A provider is the service that a configuration names.  Its clients ask for replies and
for embeddings.
-/

namespace Colloquy

inductive Provider where
  | openAi (client : OpenAi)
  | ollama (baseUrl model embeddingModel : String)
deriving DecidableEq, Repr

/-- One who can be asked for replies and for embeddings. -/
inductive Client where
  | openAi (client : OpenAi)
  | ollama (client : Ollama)
deriving DecidableEq, Repr

namespace Client

def model : Client -> String
  | openAi c => c.model
  | ollama c => c.model

def embeddingModel : Client -> String
  | openAi c => c.embeddingModel
  | ollama c => c.embeddingModel

/-- The next message of a conversation. -/
def complete (c : Client) (send : Http.Transport τ) (t : τ) (model : Option String)
    (context : List Message) : Except ServiceError Message × τ :=
  match c with
  | openAi c => c.complete send t model context
  | ollama c => c.complete send t model context

/-- One vector for each text. -/
def embed (c : Client) (send : Http.Transport τ) : Embedder τ :=
  fun t texts =>
    match c with
    | openAi c => c.embed send t texts
    | ollama c => c.embed send t texts

end Client

namespace Provider

/-- The provider that a configuration names; the key is the value of a variable. -/
def ofBackend (v : Variables) : Configuration.Backend -> Except SetupError Provider
  | .openAi name base model embeddingModel =>
      match v name with
      | some key => .ok (openAi ⟨key, base, model, embeddingModel⟩)
      | none => .error ⟨"Environment variable '" ++ name ++ "' is not set"⟩
  | .ollama baseUrl model embeddingModel => .ok (ollama baseUrl model embeddingModel)

def name : Provider -> String
  | openAi _ => "OpenAI"
  | ollama _ _ _ => "Ollama"

def model : Provider -> String
  | openAi c => c.model
  | ollama _ model _ => model

def client : Provider -> Except SetupError Client
  | openAi c => .ok (.openAi c)
  | ollama baseUrl model embeddingModel =>
      (Ollama.ofBase baseUrl model embeddingModel).map .ollama

end Provider
end Colloquy
