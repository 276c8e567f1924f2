import Colloquy.Pattern.Parse

/-!
# Patterns

A pattern is a text that is a regular expression of bounded nesting and size.
Patterns are equal when their texts are.
-/

namespace Colloquy
namespace Pattern

namespace Expr

/-- How deep an expression is nested; a sequence and a choice are one level each. -/
def nesting : Expr -> Nat
  | empty => 0
  | set _ => 0
  | look _ => 0
  | seq a (seq b c) => max (nesting a + 1) (nesting (seq b c))
  | seq a b => max (nesting a) (nesting b) + 1
  | alt a (alt b c) => max (nesting a + 1) (nesting (alt b c))
  | alt a b => max (nesting a) (nesting b) + 1
  | group _ e => nesting e + 1
  | repeated e _ _ => nesting e + 1

def stateSize : Nat := 32

/-- A rough size of the automaton for a set of characters. -/
def setSize (s : CharSet) : Nat :=
  match s with
  | [(a, b)] =>
      if b < 0x80 then stateSize
      else if a == b then stateSize * (Char.ofNat a).utf8Size
      else 6 * stateSize
  | s => if CharSet.isAscii s then stateSize + 8 * s.length else stateSize + 60 * s.length

/-- A rough size in bytes of the automaton for an expression, in which repeated parts
are written out. -/
def size : Expr -> Nat
  | empty => stateSize
  | set s => setSize s
  | look _ => stateSize
  | seq a b => size a + size b
  | alt a b => size a + size b + 2 * stateSize
  | group captures e => size e + (if captures then 2 * stateSize else 0)
  | repeated e least most =>
      match most with
      | none => max least 1 * size e + 2 * stateSize
      | some most => least * size e + (most - least) * (size e + stateSize + 8) + stateSize

end Expr

def maxNesting : Nat := 250

def maxSize : Nat := 10 * Nat.pow 2 20

def compile (text : String) : Except Error Expr := do
  let e <- Expr.parse text
  if e.nesting > maxNesting then
    throw .tooDeep
  if e.size > maxSize then
    throw .tooLarge
  return e

end Pattern

structure Pattern where
  source : String
  expr : Pattern.Expr
  compiled : Pattern.compile source = .ok expr

namespace Pattern

theorem eq_of_source_eq {p q : Pattern} (h : p.source = q.source) : p = q := by
  cases p with
  | mk source expr compiled =>
      cases q with
      | mk source' expr' compiled' =>
          cases h
          cases compiled.symm.trans compiled'
          rfl

instance : DecidableEq Pattern := fun p q =>
  if h : p.source = q.source then isTrue (eq_of_source_eq h)
  else isFalse fun e => h (congrArg source e)

def ofText (text : String) : Except Error Pattern :=
  match h : compile text with
  | .ok expr => .ok ⟨text, expr, h⟩
  | .error e => .error e

def isMatch (p : Pattern) (text : String) : Bool :=
  p.expr.matchesIn text

end Pattern
end Colloquy
