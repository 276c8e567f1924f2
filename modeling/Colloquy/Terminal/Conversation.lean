import Colloquy.Message
import Colloquy.Snippet.Extract
import Colloquy.Terminal.Style
import Colloquy.Text.Line

/-!
# Conversations on a terminal

A message is shown under its agent and its role; of an extract only the number and the
place are shown.
-/

namespace Colloquy
namespace Terminal

def roleStyle : Role -> Style
  | .system => .magenta
  | .user => .green
  | .assistant => .brightCyan

/-- A role, in a column as wide as the longest of them. -/
def roleLabel (colored : Bool) (role : Role) : String :=
  paint colored [roleStyle role, .bold] (padded 9 role.name)

def agentLabel (agent : String) : String :=
  "[" ++ agent ++ "]"

/-- What is printed for one message. -/
def message (colored : Bool) (agent : String) (m : Message) : String :=
  paint colored [.dimmed] (agentLabel agent) ++ " " ++ roleLabel colored m.role ++ "\n" ++
    String.join ((Text.lines m.text).map fun line => "    " ++ line ++ "\n") ++ "\n"

/-- Where a snippet comes from. -/
def place (s : Snippet) : String :=
  s.source ++ " (pages " ++ toString s.firstPage ++ "-" ++ toString s.lastPage ++
    ", offset " ++ toString s.start ++ ")"

def extractHeading (colored : Bool) (agent : String) (number : Nat) (s : Snippet) : String :=
  "  " ++ paint colored [.yellow, .bold]
    (agentLabel agent ++ " Extract #" ++ toString number) ++ " " ++
    paint colored [.dimmed] (place s) ++ "\n"

/-- What is printed for the snippets of one search, numbered from `base`. -/
def extracts (colored : Bool) (agent : String) (base : Nat) (snippets : List Snippet) :
    String :=
  String.join (List.zipWith (extractHeading colored agent)
    (Extract.numbers base snippets.length) snippets)

end Terminal
end Colloquy
