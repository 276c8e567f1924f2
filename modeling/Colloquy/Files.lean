import Colloquy.Index.Directory
import Colloquy.Text.Bytes

/-!
# Files

What is found under a path: a file, or a directory with all files below it.
-/

namespace Colloquy

inductive Place where
  | file (content : List UInt8)
  | directory (files : List Index.File)

abbrev Files := String -> Option Place

/-- Why a text is not read. -/
inductive ReadFailure where
  | missing
  | directory
  | notText
deriving DecidableEq, Repr

namespace ReadFailure

def message : ReadFailure -> String
  | missing => "No such file or directory (os error 2)"
  | directory => "Is a directory (os error 21)"
  | notText => "stream did not contain valid UTF-8"

end ReadFailure

namespace Files

/-- The text in a file. -/
def text (f : Files) (path : String) : Except ReadFailure (List Char) :=
  match f path with
  | none => .error .missing
  | some (.directory _) => .error .directory
  | some (.file content) =>
      match Text.decode? content with
      | some cs => .ok cs
      | none => .error .notText

end Files
end Colloquy
