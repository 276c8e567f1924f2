import Colloquy.Service

/-!
# Dialogues

A dialogue is a computation that stops to ask questions.  It is a tree: each question
shows the state as it stands and has one branch for each answer.  Whoever answers
chooses the branch, so one dialogue holds all behaviours of the services at once, and
several dialogues can be answered in turn in any order.
-/

namespace Colloquy

inductive Dialogue (σ α : Type) where
  | done (state : σ) (result : α)
  | ask (state : σ) (query : Query) (next : query.Answer -> Dialogue σ α)

namespace Dialogue

def bind : Dialogue σ α -> (σ -> α -> Dialogue σ β) -> Dialogue σ β
  | done s a, f => f s a
  | ask s q next, f => ask s q fun answer => bind (next answer) f

theorem bind_assoc (d : Dialogue σ α) (f : σ -> α -> Dialogue σ β)
    (g : σ -> β -> Dialogue σ γ) :
    (d.bind f).bind g = d.bind fun s a => (f s a).bind g := by
  induction d with
  | done s a => rfl
  | ask s q next ih =>
      simp only [bind, ask.injEq, heq_eq_eq, true_and]
      exact funext ih

/-- One who answers questions, with a memory of its own. -/
abbrev Answerer (τ : Type) := τ -> (q : Query) -> q.Answer × τ

/-- The end that a dialogue comes to with a given answerer. -/
def play (answer : Answerer τ) : τ -> Dialogue σ α -> τ × σ × α
  | t, done s a => (t, s, a)
  | t, ask _ q next =>
      let r := answer t q
      play answer r.2 (next r.1)

end Dialogue

/-- A part of a dialogue that starts from a state and may fail; the state is kept in
either case. -/
def Act (σ ε α : Type) : Type :=
  σ -> Dialogue σ (Except ε α)

namespace Act

def pure (a : α) : Act σ ε α :=
  fun s => .done s (.ok a)

def bind (x : Act σ ε α) (f : α -> Act σ ε β) : Act σ ε β :=
  fun s => (x s).bind fun s r =>
    match r with
    | .ok a => f a s
    | .error e => .done s (.error e)

instance : Monad (Act σ ε) where
  pure := pure
  bind := bind

def fail (e : ε) : Act σ ε α :=
  fun s => .done s (.error e)

def get : Act σ ε σ :=
  fun s => .done s (.ok s)

def modify (f : σ -> σ) : Act σ ε Unit :=
  fun s => .done (f s) (.ok ())

def ask (q : Query) : Act σ ε q.Answer :=
  fun s => .ask s q fun answer => .done s (.ok answer)

/-- Fails if the answer of a service is a failure. -/
def need (wrap : ServiceError -> ε) : Except ServiceError α -> Act σ ε α
  | .ok a => pure a
  | .error e => fail (wrap e)

def complete (wrap : ServiceError -> ε) (model : Option String) (context : List Message) :
    Act σ ε Message :=
  bind (ask (.complete model context)) (need wrap)

def search (wrap : ServiceError -> ε) (text : String) (limit : Nat) :
    Act σ ε (List Snippet) :=
  bind (ask (.search text limit)) (need wrap)

def execute (wrap : ServiceError -> ε) (source : String) : Act σ ε Script.Outcome :=
  bind (ask (.execute source)) (need wrap)

def number (snippets : List Snippet) : Act σ ε Nat :=
  ask (.number snippets)

def tell (event : Event) : Act σ ε Unit :=
  ask (.tell event)

end Act
end Colloquy
