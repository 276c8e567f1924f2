import Colloquy.Script
import Colloquy.Service
import Colloquy.Text.Bytes

/-!
# Running scripts

A script that is started writes bytes and ends in some way.
Of what it writes the executor keeps the start: as many whole characters as fit into
the limit.
-/

namespace Colloquy
namespace Script

inductive Ending where
  | exited (status : Nat)
  /-- Stopped by a signal. -/
  | killed
  /-- Still running when the time was over. -/
  | overdue
deriving DecidableEq, Repr

/-- What a script wrote and how it ended. -/
structure Capture where
  stdout : List UInt8
  stderr : List UInt8
  ending : Ending

/-- The interpreters that can be started, by name. -/
abbrev Machine := String -> Option (String -> Capture)

structure Executor where
  interpreter : String := "python3"
  timeoutSeconds : Nat := 30
  maxOutputBytes : Nat := 50000
deriving DecidableEq, Repr

/-- The text, or its start up to the boundary at the limit or before it and a note about
the length of the whole. -/
def truncate (limit : Nat) (text : List Char) : List Char :=
  if Text.byteLength text <= limit then text
  else
    (Text.startBefore? text limit).get (Text.startBefore?_isSome text limit) ++
      ("...[truncated, " ++ toString (Text.byteLength text) ++ " bytes total]").toList

namespace Executor

/-- What is kept of some output. -/
def captured (e : Executor) (bytes : List UInt8) : String :=
  String.ofList (truncate e.maxOutputBytes (Text.decodeLossy bytes))

/-- What became of a script. -/
def outcome (e : Executor) (p : Capture) : Outcome :=
  match p.ending with
  | .exited 0 => .completed (e.captured p.stdout)
  | .exited status => .failed (e.captured p.stdout) (e.captured p.stderr) (some status)
  | .killed => .failed (e.captured p.stdout) (e.captured p.stderr) none
  | .overdue => .timedOut (e.captured p.stdout) e.timeoutSeconds

def missing (e : Executor) : ServiceError :=
  .execution ("Failed to start interpreter '" ++ e.interpreter ++
    "': No such file or directory (os error 2)")

def execute (e : Executor) (m : Machine) (source : String) : Except ServiceError Outcome :=
  match m e.interpreter with
  | none => .error e.missing
  | some start => .ok (e.outcome (start source))

end Executor
end Script
end Colloquy
