/-!
# Lines of a text

A line ends before a line feed; one carriage return directly before that line
feed belongs to the line end.  A line feed that ends the text opens no further
line, and a carriage return elsewhere is an ordinary character.
-/

namespace Colloquy
namespace Text

/-- A line whose line feed has been seen, less a carriage return at its end. -/
def dropReturn (line : List Char) : List Char :=
  match line.getLast? with
  | some '\r' => line.dropLast
  | _ => line

/-- The lines among the pieces between line feeds.  The last piece has no line
feed after it: it is a line as it stands, or none at all when it is empty. -/
def closeLines : List (List Char) -> List (List Char)
  | [] => []
  | [last] => if last.isEmpty then [] else [last]
  | piece :: next :: rest => dropReturn piece :: closeLines (next :: rest)

def linesOf (cs : List Char) : List (List Char) :=
  closeLines (cs.splitOn '\n')

/-- Lines put together again, with a line feed between neighbours. -/
def joinLines (lines : List (List Char)) : List Char :=
  List.intercalate ['\n'] lines

def lines (s : String) : List String :=
  (linesOf s.toList).map String.ofList

end Text
end Colloquy
