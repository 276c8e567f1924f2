import Colloquy.Snippet

/-!
# Metadata of stored snippets

A snippet is stored as metadata of its vector: its text, its document and its place.  The
numbers among these are stored with a sign, in 64 bits.  A number that comes back negative, or too
large for what it counts, makes the snippet unusable.
-/

namespace Colloquy

structure Metadata where
  source : String
  start : Int64
  firstPage : Int64
  lastPage : Int64
  text : String
deriving DecidableEq, Repr

namespace Metadata

/-- A stored number as a number without a sign, if it is one and has no more than `bits` bits. -/
def unsigned? (bits : Nat) (n : Int64) : Option Nat :=
  match n.toInt with
  | .ofNat k => if k < Nat.pow 2 bits then some k else none
  | .negSucc _ => none

def ofSnippet (s : Snippet) : Metadata where
  source := s.source
  start := Int64.ofNat s.start
  firstPage := Int64.ofNat s.firstPage
  lastPage := Int64.ofNat s.lastPage
  text := s.text

/-- The snippet that was stored, if the metadata can be used. -/
def snippet? (m : Metadata) : Option Snippet := do
  let start <- unsigned? 64 m.start
  let firstPage <- unsigned? 32 m.firstPage
  let lastPage <- unsigned? 32 m.lastPage
  return { source := m.source, start, firstPage, lastPage, text := m.text }

end Metadata
end Colloquy
