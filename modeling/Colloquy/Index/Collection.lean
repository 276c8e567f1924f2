import Colloquy.Index.Embedding
import Colloquy.Index.Metadata

/-!
# Collections

A collection holds the metadata of snippets under their names and vectors that lead to
them.  Storing under a name again replaces the snippet, but the older vector stays and
leads to the new one, until the collection is compacted.
-/

namespace Colloquy

/-- Why a vector is refused. -/
inductive VectorError where
  | noDimensions
  | dimension (expected actual : Nat)
  | notFinite
deriving DecidableEq, Repr

namespace VectorError

def message : VectorError -> String
  | noDimensions => "Invalid vector: Dimensions must be > 0"
  | dimension expected actual =>
      "Dimension mismatch: expected " ++ toString expected ++ ", got " ++ toString actual
  | notFinite => "Invalid vector: Vector contains NaN or Inf"

end VectorError

structure Collection where
  dimension : Nat
  /-- The vectors with the names that they lead to, from old to new. -/
  vectors : List (String × Embedding) := []
  /-- The snippets by name. -/
  snippets : List (String × Metadata) := []

namespace Collection

def create (dimension : Nat) : Except VectorError Collection :=
  if dimension == 0 then .error .noDimensions else .ok { dimension := dimension }

def get? (c : Collection) (name : String) : Option Metadata :=
  c.snippets.lookup name

/-- The number of snippets. -/
def size (c : Collection) : Nat :=
  c.snippets.length

/-- The list with the snippet under a name, in the place of one that has the name. -/
def put (name : String) (m : Metadata) : List (String × Metadata) -> List (String × Metadata)
  | [] => [(name, m)]
  | (n, old) :: rest => if n == name then (n, m) :: rest else (n, old) :: put name m rest

/-- The vector fits into the collection. -/
def check (c : Collection) (v : Embedding) : Except VectorError Unit :=
  if v.length == c.dimension then .ok () else .error (.dimension c.dimension v.length)

def insert (c : Collection) (name : String) (v : Embedding) (m : Metadata) :
    Except VectorError Collection := do
  c.check v
  if v.isFinite then
    return { c with
      vectors := c.vectors ++ [(name, v)]
      snippets := put name m c.snippets }
  else throw .notFinite

/-- The snippets that the `limit` vectors nearest to the given one lead to, nearest
first. -/
def search (c : Collection) (v : Embedding) (limit : Nat) :
    Except VectorError (List Metadata) := do
  c.check v
  let nearer (a b : String × Embedding) : Bool :=
    Embedding.distance v a.2 <= Embedding.distance v b.2
  return ((c.vectors.mergeSort nearer).take limit).filterMap fun entry => c.get? entry.1

/-- The collection with the newest vector of each name only. -/
def compact (c : Collection) : Collection :=
  { c with
    vectors := c.snippets.filterMap fun (name, _) =>
      (c.vectors.reverse.lookup name).map fun v => (name, v) }

end Collection
end Colloquy
