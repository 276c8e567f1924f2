import Colloquy.Text.Bytes
import Colloquy.Transcript

/-!
# Pruning

A pruning policy decides which expired messages are left out of a completion
request.  Messages that have not expired are always sent.  Under a token budget the
expired messages go one by one, most overdue first, then least important, then by
position, until the rest fits.
-/

namespace Colloquy

/-- A rough count of tokens: one for every four bytes begun. -/
def estimateTokens (text : String) : Nat :=
  (Text.byteLength text.toList + 3) / 4

namespace Entry

def tokens (e : Entry) : Nat :=
  estimateTokens e.message.text

end Entry

namespace Pruning

/-- When expired messages are left out. -/
inductive Trigger where
  | never
  | always
  | tokenBudget
deriving DecidableEq, Repr

namespace Trigger

def name : Trigger -> String
  | never => "never"
  | always => "always"
  | tokenBudget => "token_budget"

def ofName? : String -> Option Trigger
  | "never" => some never
  | "always" => some always
  | "token_budget" => some tokenBudget
  | _ => none

end Trigger

/-- The order among expired messages equally overdue and equally important. -/
inductive TieBreak where
  | oldestFirst
  | newestFirst
deriving DecidableEq, Repr

namespace TieBreak

def name : TieBreak -> String
  | oldestFirst => "oldest_first"
  | newestFirst => "newest_first"

def ofName? : String -> Option TieBreak
  | "oldest_first" => some oldestFirst
  | "newest_first" => some newestFirst
  | _ => none

end TieBreak

structure Policy where
  trigger : Trigger := .tokenBudget
  maxTokens : Nat := 8000
  tieBreak : TieBreak := .oldestFirst
deriving DecidableEq, Repr

/-- An entry with its place in the transcript. -/
abbrev Placed := Entry × Nat

namespace Placed

def overdue (e : Placed) : Int :=
  e.1.remaining.getD 0

/-- `a` is left out no later than `b`. -/
def goesBefore (tie : TieBreak) (a b : Placed) : Bool :=
  if overdue a != overdue b then overdue a < overdue b
  else if a.1.message.importance != b.1.message.importance then
    a.1.message.importance.rank < b.1.message.importance.rank
  else
    match tie with
    | .oldestFirst => a.2 <= b.2
    | .newestFirst => b.2 <= a.2

end Placed

/-- The expired entries, in the order in which they are left out. -/
def candidates (tie : TieBreak) (t : Transcript) : List Placed :=
  (t.zipIdx.filter fun e => e.1.isExpired).mergeSort (Placed.goesBefore tie)

def totalTokens (t : Transcript) : Nat :=
  t.foldr (fun e n => e.tokens + n) 0

/-- The shortest start of `expired` whose removal brings `total` down to `budget`,
or all of it. -/
def overBudget (budget : Nat) : Nat -> List Placed -> List Placed
  | _, [] => []
  | total, e :: rest =>
      if total <= budget then [] else e :: overBudget budget (total - e.1.tokens) rest

namespace Policy

/-- The entries that are left out. -/
def dropped (p : Policy) (t : Transcript) : List Placed :=
  match p.trigger with
  | .never => []
  | .always => candidates p.tieBreak t
  | .tokenBudget => overBudget p.maxTokens (totalTokens t) (candidates p.tieBreak t)

/-- One flag for each entry: true if it goes into the context. -/
def select (p : Policy) (t : Transcript) : List Bool :=
  let gone := (p.dropped t).map Prod.snd
  (List.range t.length).map fun index => !gone.contains index

end Policy
end Pruning

namespace Transcript

/-- The messages that the policy keeps. -/
def context (p : Pruning.Policy) (t : Transcript) : List Message :=
  ((t.zip (p.select t)).filter Prod.snd).map fun e => e.1.message

/-- The transcript after a request has carried the messages that the policy keeps. -/
def afterRequest (p : Pruning.Policy) (t : Transcript) : Transcript :=
  List.zipWith (fun e kept => if kept then e.carried else e) t (p.select t)

end Transcript
end Colloquy
