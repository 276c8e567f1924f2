import Colloquy.Http
import Colloquy.Index.Embedding
import Colloquy.Json.Record
import Colloquy.Service

/-!
# Services with the interface of OpenAI

Replies and embeddings come from two addresses below a common base, and requests carry a
key.  The vectors of an answer are labelled with the positions of their texts and may
come in any order.
-/

namespace Colloquy

structure OpenAi where
  apiKey : String
  base : String
  model : String
  embeddingModel : String
deriving DecidableEq, Repr

namespace OpenAi

/-- The base without the slashes at its end. -/
def root (c : OpenAi) : String :=
  String.ofList (c.base.toList.reverse.dropWhile (· == '/')).reverse

/-- The name and the password in an address are no part of it when it is called. -/
def withoutCredentials (u : Url) : Url :=
  match u.authority with
  | none => u
  | some a =>
      let isText (s : String) := (Text.decode? (Url.percentDecode s.toList)).isSome
      let hasPassword := match a.password with
        | some password => isText password
        | none => false
      if isText a.username && (!a.username.isEmpty || hasPassword) then
        { u with authority := some { a with username := "", password := none } }
      else u

def failure (detail : String) : ServiceError :=
  .model ("HTTP request failed: " ++ detail)

def unbuilt : String := "builder error"

def forUrl (detail : String) (u : Url) : String :=
  detail ++ " for url (" ++ u.text ++ ")"

/-- The address that a path is called at. -/
def address (c : OpenAi) (path : String) : Except ServiceError Url :=
  match Url.parse (c.root ++ "/" ++ path) with
  | .error _ => .error (failure unbuilt)
  | .ok u =>
      if u.host?.isNone then .error (failure (forUrl unbuilt u))
      else if !c.apiKey.toList.all Http.isHeaderChar then .error (failure unbuilt)
      else if !Http.isReachable u then .error (failure (forUrl unbuilt (withoutCredentials u)))
      else .ok (withoutCredentials u)

def isHeaderBlank (c : Char) : Bool :=
  c == ' ' || c == '\t'

/-- The header that carries the key; blanks at its end are not sent. -/
def authorization (c : OpenAi) : String :=
  String.ofList (("Bearer " ++ c.apiKey).toList.reverse.dropWhile isHeaderBlank).reverse

def unreadable : ServiceError :=
  .model "Failed to parse response: error decoding response body"

/-- Posts a value and reads the answer. -/
def post (c : OpenAi) (send : Http.Transport τ) (t : τ) (path : String) (body : Json)
    (read : Json -> Option α) : Except ServiceError α × τ :=
  match c.address path with
  | .error e => (.error e, t)
  | .ok url =>
      match send t { url := url, authorization := some c.authorization, body := body } with
      | (none, t) => (.error (failure (forUrl "error sending request" url)), t)
      | (some r, t) =>
          if !r.isSuccess then
            (.error (.model ("OpenAI request failed (" ++ Http.statusText r.status ++ "): " ++
              r.text)), t)
          else
            match (Json.ofBytes? r.body).bind read with
            | some a => (.ok a, t)
            | none => (.error unreadable, t)

/-!
# Replies
-/

def messageBody (m : Message) : Json :=
  .object [("role", .string m.role.name), ("content", .string m.text)]

/-- The text of a choice, which may be missing. -/
def choice? (j : Json) : Option (Option String) := do
  let content <- (<- j.required? "message").optional? "content"
  match content with
  | none => some none
  | some (.string text) => some (some text)
  | some _ => none

def choices? (j : Json) : Option (List (Option String)) := do
  let choices <- (<- j.required? "choices").array?
  choices.mapM choice?

/-- The first choice of an answer. -/
def complete (c : OpenAi) (send : Http.Transport τ) (t : τ) (model : Option String)
    (context : List Message) : Except ServiceError Message × τ :=
  let body := Json.object [("model", .string (model.getD c.model)),
    ("messages", .array (context.map messageBody))]
  let (answer, t) := c.post send t "chat/completions" body choices?
  match answer with
  | .error e => (.error e, t)
  | .ok choices =>
      match choices.head?.join with
      | some text => (.ok (.ofRole .assistant text), t)
      | none => (.error (.model "No response from OpenAI"), t)

/-!
# Embeddings
-/

/-- A vector with the position of its text. -/
abbrev Labelled := Nat × Embedding

def labelled? (j : Json) : Option Labelled := do
  let index <- (<- j.required? "index").nat?
  let vector <- (<- j.required? "embedding").vector?
  if index < Nat.pow 2 64 then some (index, vector) else none

def data? (j : Json) : Option (List Labelled) := do
  let data <- (<- j.required? "data").array?
  data.mapM labelled?

/-- The vectors in the order of their labels. -/
def inOrder (items : List Labelled) : List Embedding :=
  (items.mergeSort fun a b => a.1 <= b.1).map Prod.snd

/-- The vectors for some texts, if there are as many. -/
def vectors (count : Nat) (items : List Labelled) : Except ServiceError (List Embedding) :=
  if items.length == count then .ok (inOrder items)
  else
    .error (.model ("OpenAI returned " ++ toString items.length ++ " embeddings for " ++
      toString count ++ " inputs"))

def embed (c : OpenAi) (send : Http.Transport τ) (t : τ) (texts : List String) :
    Except ServiceError (List Embedding) × τ :=
  if texts.isEmpty then (.ok [], t)
  else
    let body := Json.object [("model", .string c.embeddingModel),
      ("input", .array (texts.map Json.string))]
    let (answer, t) := c.post send t "embeddings" body data?
    (answer.bind (vectors texts.length), t)

end OpenAi
end Colloquy
