import Colloquy.Text.Blank
import Colloquy.Text.Line

/-!
# Fenced blocks

A model hands over code or a query between two fence lines.  The opening line
holds a marker directly followed by the tag of the block, the closing line holds
the same marker alone; blanks around either do not count.  Looking for a block
never fails: the answer says whether there is one, none, or one without an end.
-/

namespace Colloquy

inductive Fence where
  | dollars
  | backticks
deriving DecidableEq, Repr

namespace Fence

def marker : Fence -> List Char
  | dollars => ['$', '$', '$']
  | backticks => ['\x60', '\x60', '\x60']

/-- The line opens a block with the given tag. -/
def opens (fence : Fence) (tag line : List Char) : Bool :=
  Text.strip line == fence.marker ++ tag

/-- The line closes a block that this fence opened. -/
def closes (fence : Fence) (line : List Char) : Bool :=
  Text.strip line == fence.marker

def opening? (tag line : List Char) : Option Fence :=
  [dollars, backticks].find? fun fence => fence.opens tag line

end Fence

inductive Extraction where
  | found (body : String)
  | noBlock
  | unterminated
deriving DecidableEq, Repr

namespace Extraction

/-- The body of a block that `fence` has opened, up to its closing line. -/
def ofBody (fence : Fence) (lines : List (List Char)) : Extraction :=
  match lines.span fun line => !fence.closes line with
  | (body, _ :: _) => found (String.ofList (Text.joinLines body))
  | (_, []) => unterminated

/-- The first block with the given tag. -/
def ofLines (tag : List Char) : List (List Char) -> Extraction
  | [] => noBlock
  | line :: rest =>
      match Fence.opening? tag line with
      | some fence => ofBody fence rest
      | none => ofLines tag rest

def ofText (text tag : String) : Extraction :=
  ofLines tag.toList (Text.linesOf text.toList)

end Extraction
end Colloquy
