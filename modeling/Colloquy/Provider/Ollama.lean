import Colloquy.Http
import Colloquy.Index.Embedding
import Colloquy.Json.Record
import Colloquy.Service

/-!
# Services with the interface of Ollama

A server is named by the scheme, the host and the port of an address; the rest of the
address does not count.
-/

namespace Colloquy

namespace Ollama

/-- Where a server listens. -/
structure Endpoint where
  scheme : String
  host : Url.Host
  port : Nat
deriving DecidableEq, Repr

def defaultPort : Nat := 11434

namespace Endpoint

/-- The scheme and the host of an endpoint, as one text. -/
def origin (e : Endpoint) : String :=
  e.scheme ++ "://" ++ e.host.text

/-- The endpoint that an address names. -/
def ofBase (base : String) : Except SetupError Endpoint :=
  match Url.parse base with
  | .error e => .error ⟨"Invalid Ollama base URL '" ++ base ++ "': " ++ e.message⟩
  | .ok u =>
      match u.host? with
      | none => .error ⟨"Ollama base URL '" ++ base ++ "' has no host"⟩
      | some host => .ok ⟨u.scheme, host, u.port?.getD defaultPort⟩

/-- The address of a service of the server. -/
def url (e : Endpoint) (steps : List String) : Url :=
  let usual := (Url.SchemeKind.ofScheme e.scheme).usualPort?
  { scheme := e.scheme
    authority := some {
      host := some e.host
      port := if usual == some e.port then none else some e.port }
    path := .steps steps }

end Endpoint
end Ollama

structure Ollama where
  endpoint : Ollama.Endpoint
  model : String
  embeddingModel : String
deriving DecidableEq, Repr

namespace Ollama

def ofBase (base model embeddingModel : String) : Except SetupError Ollama :=
  (Endpoint.ofBase base).map fun e => ⟨e, model, embeddingModel⟩

/-- Posts a value and reads the answer; `subject` is what a failure is about. -/
def post (c : Ollama) (send : Http.Transport τ) (t : τ) (subject name : String) (body : Json)
    (read : Json -> Option α) : Except ServiceError α × τ :=
  let failure (detail : String) : ServiceError := .model (subject ++ ": " ++ detail)
  let url := c.endpoint.url ["api", name]
  if !Http.isReachable url then (.error (failure "Reqwest error"), t)
  else
    match send t { url := url, body := body } with
    | (none, t) => (.error (failure "Reqwest error"), t)
    | (some r, t) =>
        if !r.isSuccess then (.error (failure r.text), t)
        else
          match (Json.ofBytes? r.body).bind read with
          | some a => (.ok a, t)
          | none => (.error (failure "Ollama JSON error"), t)

def messageBody (m : Message) : Json :=
  .object [("role", .string m.role.name), ("content", .string m.text),
    ("tool_calls", .array []), ("thinking", .null)]

/-- The text of an answer. -/
def reply? (j : Json) : Option String := do
  let _ <- (<- j.required? "model").string?
  let _ <- (<- j.required? "created_at").string?
  let _ <- (<- j.required? "done").bool?
  let message <- j.required? "message"
  let role <- (<- message.required? "role").string?
  if ["system", "user", "assistant", "tool"].contains role then
    (<- message.required? "content").string?
  else none

def complete (c : Ollama) (send : Http.Transport τ) (t : τ) (model : Option String)
    (context : List Message) : Except ServiceError Message × τ :=
  let body := Json.object [("model", .string (model.getD c.model)),
    ("messages", .array (context.map messageBody)), ("stream", .bool false)]
  let (answer, t) := c.post send t "Ollama error" "chat" body reply?
  (answer.map (.ofRole .assistant), t)

def vectors? (j : Json) : Option (List Embedding) := do
  let vectors <- (<- j.required? "embeddings").array?
  vectors.mapM Json.vector?

def embed (c : Ollama) (send : Http.Transport τ) (t : τ) (texts : List String) :
    Except ServiceError (List Embedding) × τ :=
  if texts.isEmpty then (.ok [], t)
  else
    let body := Json.object [("model", .string c.embeddingModel),
      ("input", .array (texts.map Json.string))]
    let (answer, t) := c.post send t "Ollama embedding error" "embed" body vectors?
    match answer with
    | .error e => (.error e, t)
    | .ok vectors =>
        if vectors.length == texts.length then (.ok vectors, t)
        else
          (.error (.model ("Ollama returned " ++ toString vectors.length ++ " embeddings for " ++
            toString texts.length ++ " inputs")), t)

end Ollama
end Colloquy
