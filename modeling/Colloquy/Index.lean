import Colloquy.Index.Collection
import Colloquy.Snippet.Document
import Colloquy.Snippet.Merge

/-!
# The index of snippets

Documents are cut into snippets, which are stored with their embeddings in a collection
that comes into being with the first of them.  A search returns the nearest snippets, of
which those that touch are merged.  An index on disk can be opened again as it was when
it was last saved.
-/

namespace Colloquy

/-- One who turns texts into vectors, with a memory of its own. -/
abbrev Embedder (τ : Type) :=
  τ -> List String -> Except ServiceError (List Embedding) × τ

structure Index where
  settings : Chunk.Settings
  onDisk : Bool := false
  collection : Option Collection := none
  /-- What was last saved. -/
  saved : Option Collection := none

namespace Index

/-- What every search fails with where there is no index. -/
def missing : ServiceError :=
  .retrieval "No snippet index is configured"

/-- The number of stored snippets. -/
def size (x : Index) : Nat :=
  match x.collection with
  | some c => c.size
  | none => 0

/-- The name that a snippet is stored under. -/
def name (s : Snippet) : String :=
  s.source ++ ":" ++ toString s.start

def storeFailure (s : Snippet) (e : VectorError) : ServiceError :=
  .retrieval ("Failed to store snippet " ++ name s ++ ": " ++ e.message)

/-- Stores snippets one after the other, each with its vector, up to the first that is
refused. -/
def storeAll (c : Collection) : List (Snippet × Embedding) -> Except ServiceError Unit × Collection
  | [] => (.ok (), c)
  | (s, v) :: rest =>
      match c.insert (name s) v (.ofSnippet s) with
      | .error e => (.error (storeFailure s e), c)
      | .ok c => storeAll c rest

/-- The collection, created for vectors of the given dimension if there is none. -/
def ensure (x : Index) (dimension : Nat) : Except ServiceError Collection :=
  match x.collection with
  | some c => .ok c
  | none =>
      match Collection.create dimension with
      | .ok c => .ok c
      | .error e => .error (.retrieval ("Failed to create collection: " ++ e.message))

/-- Stores snippets with their vectors. -/
def store (x : Index) (snippets : List Snippet) (vectors : List Embedding) :
    Except ServiceError Unit × Index :=
  match vectors with
  | [] => (.ok (), x)
  | v :: _ =>
      match x.ensure v.length with
      | .error e => (.error e, x)
      | .ok c =>
          let (result, c) := storeAll c (snippets.zip vectors)
          (result, { x with collection := some c })

/-- Adds a document; the result is the number of its snippets. -/
def add (embed : Embedder τ) (t : τ) (x : Index) (d : Document) :
    Except ServiceError Nat × τ × Index :=
  let snippets := d.snippets x.settings
  if snippets.isEmpty then (.ok 0, t, x)
  else
    match embed t (snippets.map Snippet.text) with
    | (.error e, t) => (.error e, t, x)
    | (.ok vectors, t) =>
        let (result, x) := x.store snippets vectors
        (result.map fun _ => snippets.length, t, x)

def searchFailure (e : VectorError) : ServiceError :=
  .retrieval ("Snippet search failed: " ++ e.message)

/-- What is stored nearest to a text. -/
def nearest (embed : Embedder τ) (t : τ) (x : Index) (query : String) (limit : Nat) :
    Except ServiceError (List Metadata) × τ :=
  match x.collection with
  | none => (.ok [], t)
  | some c =>
      if limit == 0 then (.ok [], t)
      else
        match embed t [query] with
        | (.error e, t) => (.error e, t)
        | (.ok [], t) => (.error (.retrieval "Embedding backend returned nothing"), t)
        | (.ok (v :: _), t) =>
            match c.search v limit with
            | .error e => (.error (searchFailure e), t)
            | .ok found => (.ok found, t)

/-- The snippets that were found, merged where they touch.  Unusable ones are left out. -/
def gather (found : List Metadata) : List Snippet :=
  Snippet.merge (found.filterMap Metadata.snippet?)

/-- The snippets nearest to a text. -/
def find (embed : Embedder τ) (t : τ) (x : Index) (query : String) (limit : Nat) :
    Except ServiceError (List Snippet) × τ :=
  let (found, t) := x.nearest embed t query limit
  (found.map gather, t)

/-!
# Saving
-/

def save (x : Index) : Index :=
  if x.onDisk then { x with saved := x.collection.map Collection.compact } else x

/-- The index as it is when it is opened again. -/
def reopen (x : Index) : Index :=
  { x with collection := if x.onDisk then x.saved else none }

end Index
end Colloquy
