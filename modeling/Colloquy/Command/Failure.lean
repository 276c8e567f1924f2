/-!
# Failures of commands

A command that fails says so in one sentence, and adds what lies behind the failure.
-/

namespace Colloquy
namespace Command

structure Failure where
  message : String
  /-- What lies behind, each cause before its own cause. -/
  causes : List String := []
deriving DecidableEq, Repr

namespace Failure

/-- A text whose first line stands behind `first` and all others behind `other`. -/
def hung (first other : String) (text : String) : String :=
  first ++ String.intercalate ("\n" ++ other)
    ((text.toList.splitOn '\n').map String.ofList)

def padNumber (n : Nat) : String :=
  let digits := toString n
  String.ofList (List.replicate (5 - digits.length) ' ') ++ digits

/-- Causes, numbered if there are several. -/
def causeLines : List String -> List String
  | [] => []
  | [cause] => [hung "    " "    " cause]
  | causes =>
      causes.zipIdx.map fun (cause, n) => hung (padNumber n ++ ": ") "       " cause

def text (f : Failure) : String :=
  let behind := match causeLines f.causes with
    | [] => ""
    | lines => "\n\nCaused by:\n" ++ String.intercalate "\n" lines
  "Error: " ++ f.message ++ behind ++ "\n"

end Failure
end Command
end Colloquy
