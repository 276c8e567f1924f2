import Colloquy.Pattern.CharSet

/-!
# Regular expressions

An expression matches stretches of a text.  Searching keeps the set of all positions
that a match of an expression may end at, so that it never goes back.
-/

namespace Colloquy
namespace Pattern

/-- Conditions on a position of a text. -/
inductive Look where
  | textStart
  | textEnd
  | lineStart
  | lineEnd
  | crlfStart
  | crlfEnd
  | wordBoundary (unicode : Bool)
  | notWordBoundary (unicode : Bool)
  | wordStart (unicode : Bool)
  | wordEnd (unicode : Bool)
  | wordStartHalf (unicode : Bool)
  | wordEndHalf (unicode : Bool)
deriving DecidableEq, Repr

inductive Expr where
  | empty
  | set (ranges : CharSet)
  | look (condition : Look)
  | seq (first second : Expr)
  | alt (left right : Expr)
  | group (captures : Bool) (body : Expr)
  | repeated (body : Expr) (least : Nat) (most : Option Nat)
deriving Repr

namespace Expr

/-- The length of the longest text that is matched; none if there is no bound. -/
def maxLength? : Expr -> Option Nat
  | empty => some 0
  | set _ => some 1
  | look _ => some 0
  | seq a b => do
      let m <- maxLength? a
      let n <- maxLength? b
      some (m + n)
  | alt a b => do
      let m <- maxLength? a
      let n <- maxLength? b
      some (max m n)
  | group _ e => maxLength? e
  | repeated e _ most =>
      match maxLength? e, most with
      | some 0, _ => some 0
      | some n, some k => some (n * k)
      | _, _ => none

end Expr

/-!
# Matching
-/

/-- Word characters, for look-ups. -/
def wordRanges : Array (Nat × Nat) :=
  CharSet.word.toArray

def isWord (unicode : Bool) (c : Option Char) : Bool :=
  match c with
  | none => false
  | some c =>
      if unicode then Unicode.inRanges wordRanges c.toNat
      else CharSet.asciiWord.contains c.toNat

namespace Look

/-- The condition at a position with the given neighbours. -/
def holds (before after : Option Char) : Look -> Bool
  | textStart => before.isNone
  | textEnd => after.isNone
  | lineStart => before.isNone || before == some '\n'
  | lineEnd => after.isNone || after == some '\n'
  | crlfStart =>
      before.isNone || before == some '\n' || (before == some '\r' && after != some '\n')
  | crlfEnd =>
      after.isNone || after == some '\r' || (after == some '\n' && before != some '\r')
  | wordBoundary u => isWord u before != isWord u after
  | notWordBoundary u => isWord u before == isWord u after
  | wordStart u => !isWord u before && isWord u after
  | wordEnd u => isWord u before && !isWord u after
  | wordStartHalf u => !isWord u before
  | wordEndHalf u => !isWord u after

end Look

/-- Positions in a text, in increasing order. -/
abbrev Positions := List Nat

namespace Positions

def union : Positions -> Positions -> Positions
  | [], b => b
  | a, [] => a
  | x :: a, y :: b =>
      if x < y then x :: union a (y :: b)
      else if y < x then y :: union (x :: a) b
      else x :: union a b
termination_by a b => a.length + b.length

/-- Applies a step `n` times, less if no position is left. -/
def iterate (step : Positions -> Positions) : Nat -> Positions -> Positions
  | 0, s => s
  | n + 1, s => if s.isEmpty then s else iterate step n (step s)

/-- All positions that at most `n` steps lead to. -/
def closure (step : Positions -> Positions) : Nat -> Positions -> Positions -> Positions
  | 0, reached, _ => reached
  | n + 1, reached, newest =>
      let next := (step newest).filter fun p => !reached.contains p
      if next.isEmpty then reached else closure step n (union reached next) next

end Positions

namespace Expr

/-- The positions where a match that starts at one of the given positions ends. -/
def ends (text : Array Char) : Expr -> Positions -> Positions
  | empty, s => s
  | set ranges, s =>
      (s.filter fun p =>
        match text[p]? with
        | some c => CharSet.contains ranges c.toNat
        | none => false).map (· + 1)
  | look condition, s =>
      s.filter fun p =>
        condition.holds (if p == 0 then none else text[p - 1]?) text[p]?
  | seq a b, s => ends text b (ends text a s)
  | alt a b, s => Positions.union (ends text a s) (ends text b s)
  | group _ e, s => ends text e s
  | repeated e least most, s =>
      let start := Positions.iterate (ends text e) least s
      let more := match most with
        | some most => min (most - least) (text.size + 1)
        | none => text.size + 1
      Positions.closure (ends text e) more start start

/-- Whether the expression matches somewhere in the text. -/
def matchesIn (e : Expr) (text : String) : Bool :=
  let chars := text.toList.toArray
  !(e.ends chars (List.range (chars.size + 1))).isEmpty

end Expr
end Pattern
end Colloquy
