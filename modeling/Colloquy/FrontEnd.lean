import Colloquy.Run.Report
import Colloquy.Terminal.Conversation

/-!
# Front ends

A front end numbers the extracts of all agents with one counter and shows, on a
terminal or not at all, what the agents append to their transcripts.
-/

namespace Colloquy

/-- Where a conversation is shown. -/
inductive Screen where
  | silent
  | terminal (colored : Bool)
deriving DecidableEq, Repr

structure FrontEnd where
  screen : Screen := .silent
  /-- The number of the next extract. -/
  next : Nat := 1
  /-- All that was printed so far. -/
  printed : String := ""
deriving DecidableEq, Repr

namespace FrontEnd

def print (f : FrontEnd) (text : Bool -> String) : FrontEnd :=
  match f.screen with
  | .silent => f
  | .terminal colored => { f with printed := f.printed ++ text colored }

/-- Sets numbers of 64 bits aside for the snippets, and returns the first of them. -/
def number (f : FrontEnd) (agent : String) (snippets : List Snippet) : Nat × FrontEnd :=
  let f := f.print fun colored => Terminal.extracts colored agent f.next snippets
  (f.next, { f with next := (f.next + snippets.length) % Nat.pow 2 64 })

def tell (f : FrontEnd) (agent : String) (event : Event) : FrontEnd :=
  match event with
  | .appended m => f.print fun colored => Terminal.message colored agent m
  | _ => f

end FrontEnd

/-- The services that the agents of a run share, with a memory of their own. -/
structure Services (τ : Type) where
  complete : τ -> Option String -> List Message -> Except ServiceError Message × τ
  search : τ -> String -> Nat -> Except ServiceError (List Snippet) × τ
  execute : τ -> String -> Except ServiceError Script.Outcome × τ

namespace Services

/-- The surroundings that consist of services and a front end. -/
def surroundings (s : Services τ) : Surroundings (τ × FrontEnd) :=
  fun agent (t, f) query =>
    match query with
    | .complete model context =>
        let (answer, t) := s.complete t model context
        (answer, t, f)
    | .search text limit =>
        let (answer, t) := s.search t text limit
        (answer, t, f)
    | .execute source =>
        let (answer, t) := s.execute t source
        (answer, t, f)
    | .number snippets =>
        let (base, f) := f.number agent snippets
        (base, t, f)
    | .tell event => ((), t, f.tell agent event)

end Services
end Colloquy
