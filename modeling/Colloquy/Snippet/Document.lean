import Colloquy.Chunk.Split
import Colloquy.Service
import Colloquy.Snippet

/-!
# Documents

A document is cut into snippets.  A form feed in its text begins a new page.
-/

namespace Colloquy
namespace Chunk

/-- The settings for chunks of the given sizes, if the overlap is the smaller one. -/
def Settings.ofSizes (size overlap : Nat) : Except SetupError Settings :=
  if h : overlap < size then .ok ⟨size, overlap, h⟩
  else .error ⟨"Invalid chunk settings: The overlap is larger than or equal to the desired " ++
    "chunk capacity"⟩

end Chunk

structure Document where
  source : String
  text : List Char

namespace Document

def pageBreak : Char := '\x0c'

/-- The page that the text goes on with after the given one, a number of 32 bits. -/
def pageAfter (before : List Char) : Nat :=
  (before.count pageBreak + 1) % Nat.pow 2 32

/-- A stretch of the document as a snippet. -/
def snippet (d : Document) (s : Chunk.Span) : Snippet where
  source := d.source
  start := Text.byteLength (d.text.take s.start)
  firstPage := pageAfter (d.text.take s.start)
  lastPage := pageAfter (d.text.take s.stop)
  text := String.ofList (s.of d.text)

def snippets (settings : Chunk.Settings) (d : Document) : List Snippet :=
  (Chunk.chunks settings d.text).map d.snippet

end Document
end Colloquy
