import Colloquy.Text.Blank

/-!
# Scripts and what becomes of them

A script completes, fails or is stopped when its time is over.  `Outcome.text` is
what the model gets to read about it.
-/

namespace Colloquy
namespace Script

inductive Outcome where
  | completed (stdout : String)
  | failed (stdout stderr : String) (exitCode : Option Int)
  | timedOut (stdout : String) (seconds : Nat)
deriving DecidableEq, Repr

namespace Outcome

def isSuccess : Outcome -> Bool
  | completed _ => true
  | failed .. => false
  | timedOut .. => false

/-- A titled part, or nothing when its body is blank. -/
def titled (title body : String) : String :=
  let kept := Text.trimEnd body
  if kept.isEmpty then "" else "\n\n" ++ title ++ ":\n" ++ kept

def text : Outcome -> String
  | completed stdout =>
      let kept := Text.trimEnd stdout
      if kept.isEmpty then "(no output)" else kept
  | failed stdout stderr exitCode =>
      (match exitCode with
        | some code => "Your code failed with exit status " ++ toString code ++ "."
        | none => "Your code was terminated before it finished.") ++
        titled "Standard output" stdout ++ titled "Error output" stderr
  | timedOut stdout seconds =>
      "Your code did not finish within " ++ toString seconds ++ " seconds and was stopped." ++
        titled "Standard output" stdout

end Outcome
end Script
end Colloquy
