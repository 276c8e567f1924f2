import Colloquy.Message

/-!
# Transcripts

A transcript only ever grows at its end.  Each entry counts the completion
requests that have carried its message; a message whose count exceeds its time to
live has expired.
-/

namespace Colloquy

/-- A message and the number of completion requests that have carried it. -/
structure Entry where
  message : Message
  turns : Nat := 0
deriving DecidableEq, Repr

namespace Entry

/-- The turns left before the message expires: negative when it is overdue, none
when it never expires. -/
def remaining (e : Entry) : Option Int :=
  e.message.ttl.map fun ttl => (ttl : Int) - (e.turns : Int)

def isExpired (e : Entry) : Bool :=
  match e.remaining with
  | some left => left < 0
  | none => false

/-- The entry after one more request has carried it. -/
def carried (e : Entry) : Entry :=
  { e with turns := e.turns + 1 }

end Entry

abbrev Transcript := List Entry

namespace Transcript

def push (t : Transcript) (m : Message) : Transcript :=
  t ++ [{ message := m }]

def messages (t : Transcript) : List Message :=
  t.map Entry.message

def last? (t : Transcript) : Option Message :=
  (messages t).getLast?

/-- The most recent message by the model. -/
def lastReply? (t : Transcript) : Option Message :=
  (messages t).reverse.find? fun m => m.role == .assistant

end Transcript
end Colloquy
