/-!
# Messages

A transcript is a sequence of messages.  Each has an author, a text, an
importance and, unless it stays for ever, the number of further completion turns
for which it stays in the context.
-/

namespace Colloquy

inductive Role where
  | system
  | user
  | assistant
deriving DecidableEq, Repr

namespace Role

def name : Role -> String
  | system => "system"
  | user => "user"
  | assistant => "assistant"

def ofName? : String -> Option Role
  | "system" => some system
  | "user" => some user
  | "assistant" => some assistant
  | _ => none

end Role

/-- How much a message is worth keeping, from least to most. -/
inductive Importance where
  | low
  | medium
  | high
deriving DecidableEq, Repr

namespace Importance

def name : Importance -> String
  | low => "low"
  | medium => "medium"
  | high => "high"

def ofName? : String -> Option Importance
  | "low" => some low
  | "medium" => some medium
  | "high" => some high
  | _ => none

/-- The place of an importance in the order. -/
def rank : Importance -> Nat
  | low => 0
  | medium => 1
  | high => 2

end Importance

structure Message where
  role : Role
  text : String
  importance : Importance := .medium
  ttl : Option Nat := none
deriving DecidableEq, Repr

namespace Message

/-- A message by `role`; instructions of the system matter most. -/
def ofRole (role : Role) (text : String) : Message where
  role := role
  text := text
  importance := match role with
    | .system => .high
    | .user => .medium
    | .assistant => .medium

end Message
end Colloquy
