import Colloquy.Snippet

/-!
# Numbered extracts

Retrieved snippets are shown to the model as numbered extracts with a line
between neighbours.  Numbers count up from a base and stay at the greatest
number of 64 bits once they have reached it.
-/

namespace Colloquy
namespace Extract

/-- The line between two extracts. -/
def separator : String := "-----"

def lastNumber : Nat := Nat.pow 2 64 - 1

def number (base offset : Nat) : Nat :=
  min (base + offset) lastNumber

/-- The numbers of `count` extracts. -/
def numbers (base count : Nat) : List Nat :=
  (List.range count).map (number base)

/-- The heading of extract `n`, an empty line and the text. -/
def body (n : Nat) (text : String) : String :=
  "Extract #" ++ toString n ++ ":\n\n" ++ text

def bodies (base : Nat) (snippets : List Snippet) : List String :=
  List.zipWith body (numbers base snippets.length) (snippets.map Snippet.text)

def render (base : Nat) (snippets : List Snippet) : String :=
  String.intercalate ("\n" ++ separator ++ "\n") (bodies base snippets)

end Extract
end Colloquy
