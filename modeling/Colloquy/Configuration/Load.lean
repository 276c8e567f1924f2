import Colloquy.Configuration.Read
import Colloquy.Files

/-!
# Loading configurations

A configuration that is loaded makes sense.
-/

namespace Colloquy
namespace Configuration

inductive LoadError where
  | notFound (path : String)
  | unreadable (failure : ReadFailure)
  | malformed
  | fault (fault : Fault)
deriving DecidableEq, Repr

namespace LoadError

def malformedReason : String := "the text is no configuration"

def message : LoadError -> String
  | notFound path => "Configuration file not found: " ++ path
  | unreadable failure => "Failed to read configuration file: " ++ failure.message
  | malformed => "Failed to parse TOML: " ++ malformedReason
  | fault f => f.message

/-- What lies behind an error. -/
def causes : LoadError -> List String
  | unreadable failure => [failure.message]
  | malformed => [malformedReason]
  | _ => []

end LoadError

/-- The configuration, if it makes sense. -/
def checked (v : Variables) (c : Configuration) : Except LoadError Configuration :=
  match c.fault? v with
  | some f => .error (.fault f)
  | none => .ok c

/-- The configuration in the file at a path. -/
def load (f : Files) (v : Variables) (path : String) : Except LoadError Configuration :=
  match f.text path with
  | .error .missing => .error (.notFound path)
  | .error failure => .error (.unreadable failure)
  | .ok text =>
      match ofText? text with
      | none => .error .malformed
      | some c => c.checked v

/-- The configuration in a file, or the default one if there is no file. -/
def loadOrDefault (f : Files) (v : Variables) (path : String) :
    Except LoadError Configuration :=
  match load f v path with
  | .error (.notFound _) => checked v {}
  | loaded => loaded

end Configuration
end Colloquy
