import Colloquy.Index

/-!
# Directories of documents

The files below a directory are added in the order of their paths, which are compared
part by part.  Files that are no text are passed over.
-/

namespace Colloquy
namespace Index

/-- A file below a directory, with its path from there. -/
structure File where
  path : String
  content : List UInt8

namespace File

def parts (f : File) : List (List Char) :=
  f.path.toList.splitOn '/'

/-- The order of the paths. -/
def before (a b : File) : Bool :=
  !(b.parts < a.parts)

/-- The name of the document in the file. -/
def source (f : File) : String :=
  String.ofList (f.path.toList.map fun c => if c == '\\' then '/' else c)

def document? (f : File) : Option Document :=
  (Text.decode? f.content).map fun text => ⟨f.source, text⟩

end File

structure Totals where
  documents : Nat := 0
  snippets : Nat := 0
deriving DecidableEq, Repr

/-- Adds documents up to the first that cannot be added. -/
def addAll (embed : Embedder τ) (totals : Totals) (t : τ) (x : Index) :
    List Document -> Except ServiceError Totals × τ × Index
  | [] => (.ok totals, t, x)
  | d :: rest =>
      match x.add embed t d with
      | (.error e, t, x) => (.error e, t, x)
      | (.ok n, t, x) => addAll embed ⟨totals.documents + 1, totals.snippets + n⟩ t x rest

def addFiles (embed : Embedder τ) (t : τ) (x : Index) (files : List File) :
    Except ServiceError Totals × τ × Index :=
  addAll embed {} t x ((files.mergeSort File.before).filterMap File.document?)

end Index
end Colloquy
