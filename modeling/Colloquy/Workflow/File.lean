import Colloquy.Files
import Colloquy.Workflow.Load

/-!
# Workflow files

A workflow is loaded from the text in a file.
-/

namespace Colloquy
namespace Workflow

namespace LoadError

/-- What lies behind an error. -/
def causes : LoadError -> List String
  | unreadable _ reason => [reason]
  | yaml e => [e.message]
  | _ => []

end LoadError

namespace Program

/-- The program in the file at a path. -/
def ofFile (f : Files) (path : String) : Except LoadError Program :=
  match f.text path with
  | .error failure => .error (.unreadable path failure.message)
  | .ok text => ofText (String.ofList text)

end Program
end Workflow
end Colloquy
