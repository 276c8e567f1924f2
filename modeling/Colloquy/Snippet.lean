import Colloquy.Text.Bytes

/-!
# Snippets

A snippet is a piece of a document that remembers the document, the byte at which
it starts there and the pages that it spans.
-/

namespace Colloquy

structure Snippet where
  source : String
  start : Nat
  firstPage : Nat := 1
  lastPage : Nat := 1
  text : String
deriving DecidableEq, Repr

namespace Snippet

/-- One past the last byte of the snippet in its document. -/
def stop (s : Snippet) : Nat :=
  s.start + Text.byteLength s.text.toList

/-- Two snippets of one document touch when they overlap or are adjacent. -/
def touches (a b : Snippet) : Bool :=
  a.source == b.source && a.start <= b.stop && b.start <= a.stop

end Snippet
end Colloquy
