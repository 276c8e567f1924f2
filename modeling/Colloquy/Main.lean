import Std.Time.DateTime.Timestamp
import Colloquy.Command.Usage

/-!
# The program

The program reads the files and the variables that a command needs, and prints what the
command answers.
-/

namespace Colloquy
namespace Program

/-- The content of a file, if it can be read. -/
def content? (path : String) : IO (Option (List UInt8)) := do
  try
    let bytes <- IO.FS.readBinFile path
    return some bytes.toList
  catch _ => return none

/-- What is found under a path; the files below a directory are read if `deep` is set. -/
partial def place? (path : String) (deep : Bool) : IO (Option Place) := do
  match <- content? path with
  | some bytes => return some (.file bytes)
  | none =>
      try
        let directory <- IO.FS.realPath path
        if !(<- directory.isDir) then return none
        if !deep then return some (.directory [])
        let mut files : List Index.File := []
        for entry in <- directory.readDir do
          let name := entry.fileName
          match <- place? entry.path.toString deep with
          | some (.file bytes) => files := files ++ [⟨name, bytes⟩]
          | some (.directory inner) =>
              files := files ++ inner.map fun f => ⟨name ++ "/" ++ f.path, f.content⟩
          | none => pure ()
        return some (.directory files)
      catch _ => return none

/-- The paths that a command reads; below a directory all files are read. -/
def paths (l : Command.Line) : List (String × Bool) :=
  let work := match l.task with
    | .run workflow _ _ => (workflow, false)
    | .validate workflow => (workflow, false)
    | .index directory => (directory, true)
  [(Command.variablesFile, false), (l.config, false), work]

/-- The words of a text that may be names of variables. -/
def names (bytes : List UInt8) : List String :=
  let text := Text.decodeLossy bytes
  (text.splitOnP (!Variables.isKeyChar ·) ++ text.splitOnP (!Variables.isNameChar ·)).map
    String.ofList

def environment (read : List (String × Option Place)) : IO Variables := do
  let mut found : List (String × String) := []
  for (_, place) in read do
    match place with
    | some (.file bytes) =>
        for name in names bytes do
          match <- IO.getEnv name with
          | some value => found := (name, value) :: found
          | none => pure ()
    | _ => pure ()
  match <- IO.getEnv Configuration.Backend.defaultKeyVariable with
  | some value => found := (Configuration.Backend.defaultKeyVariable, value) :: found
  | none => pure ()
  let all := found
  return fun name => (all.find? fun f => f.1 == name).map Prod.snd

/-- What the program finds around it: it starts no interpreter and reaches no server. -/
def context (read : List (String × Option Place)) : IO (Command.Context Unit) := do
  let v <- environment read
  let random <- IO.rand 0 (Nat.pow 2 122 - 1)
  let now <- Std.Time.Timestamp.now
  let nanoseconds := now.toNanosecondsSinceUnixEpoch.val.toNat
  return {
    files := fun path => (read.find? fun r => r.1 == path).bind Prod.snd
    environment := v
    machine := fun _ => none
    send := fun _ _ => (none, ())
    identifier := Identifier.ofRandom random
    startedAt := ⟨nanoseconds / Nat.pow 10 9, nanoseconds % Nat.pow 10 9⟩
    milliseconds := fun _ => 0 }

def load (args : List String) : IO (List (String × Option Place)) :=
  match Command.Line.ofArguments args with
  | .error _ => return []
  | .ok l => (paths l).mapM fun (path, deep) => return (path, <- place? path deep)

end Program
end Colloquy

open Colloquy

def main (args : List String) : IO UInt32 := do
  let c <- Program.context (<- Program.load args)
  let (status, out, err) := Command.answer c () args
  IO.print out
  IO.eprint err
  return status.toUInt32
