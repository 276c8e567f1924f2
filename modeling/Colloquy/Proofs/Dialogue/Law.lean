import Colloquy.Proofs.Dialogue.Course

/-!
# Laws of dialogues

A law says what holds of every question and of every failure, given the course
before it.  An act keeps a law if it does so for all answers; what a composed act
needs in order to keep one is computed from its parts by the rules below.
-/

namespace Colloquy

namespace Dialogue

def Keeps (asks : Course σ -> σ -> Query -> Prop) (ends : Course σ -> σ -> α -> Prop) :
    Course σ -> Dialogue σ α -> Prop
  | c, done s a => ends c s a
  | c, ask s q next =>
      asks c s q ∧ forall answer, Keeps asks ends (c ++ [⟨s, q, answer⟩]) (next answer)

variable {asks : Course σ -> σ -> Query -> Prop}

theorem keeps_bind {ends : Course σ -> σ -> β -> Prop} {d : Dialogue σ α}
    {f : σ -> α -> Dialogue σ β} {c : Course σ} :
    (d.bind f).Keeps asks ends c <->
      d.Keeps asks (fun c s a => (f s a).Keeps asks ends c) c := by
  induction d generalizing c with
  | done s a => exact Iff.rfl
  | ask s q next ih =>
      constructor
      · intro h
        exact ⟨h.left, fun answer => (ih answer).mp (h.right answer)⟩
      · intro h
        exact ⟨h.left, fun answer => (ih answer).mpr (h.right answer)⟩

theorem Keeps.mono {ends ends' : Course σ -> σ -> α -> Prop} {d : Dialogue σ α} {c : Course σ}
    (h : d.Keeps asks ends c) (himp : forall c s a, ends c s a -> ends' c s a) :
    d.Keeps asks ends' c := by
  induction d generalizing c with
  | done s a => exact himp c s a h
  | ask s q next ih => exact ⟨h.left, fun answer => ih answer (h.right answer)⟩

theorem Keeps.after {ends : Course σ -> σ -> α -> Prop} {d rest : Dialogue σ α}
    {c c' : Course σ} (h : d.Keeps asks ends c) (hafter : d.After c' rest) :
    rest.Keeps asks ends (c ++ c') := by
  induction hafter generalizing c with
  | start d =>
      rw [List.append_nil]
      exact h
  | answered answer _ ih =>
      rw [List.append_cons]
      exact ih (h.right answer)

theorem Keeps.and_ends {ends : Course σ -> σ -> α -> Prop} {d : Dialogue σ α} {c : Course σ}
    (h : d.Keeps asks ends c) :
    d.Keeps asks (fun c' s a => ends c' s a ∧ exists back, c' = c ++ back ∧ d.Ends back s a) c := by
  induction d generalizing c with
  | done s a => exact ⟨h, [], (List.append_nil c).symm, After.start _⟩
  | ask s q next ih =>
      refine ⟨h.left, fun answer => (ih answer (h.right answer)).mono ?_⟩
      intro c' s' a hend
      rcases hend with ⟨hend, back, hc, hback⟩
      refine ⟨hend, _ :: back, ?_, After.answered answer hback⟩
      rw [hc, List.append_assoc]
      rfl

end Dialogue

/-- What must hold of every question, and of every failure. -/
structure Law (σ ε : Type) where
  asks : Course σ -> σ -> Query -> Prop
  fails : Course σ -> σ -> ε -> Prop

namespace Law

def ends (l : Law σ ε) (post : Course σ -> σ -> α -> Prop) : Course σ -> σ -> Except ε α -> Prop
  | c, s, .ok a => post c s a
  | c, s, .error e => l.fails c s e

/-- An act that goes on from a course keeps the law and, if it does not fail, brings
about `post`. -/
def Holds (l : Law σ ε) (c : Course σ) (s : σ) (x : Act σ ε α)
    (post : Course σ -> σ -> α -> Prop) : Prop :=
  (x s).Keeps l.asks (l.ends post) c

variable {l : Law σ ε} {c : Course σ} {s : σ}

theorem Holds.mono {x : Act σ ε α} {post post' : Course σ -> σ -> α -> Prop}
    (h : l.Holds c s x post) (himp : forall c s a, post c s a -> post' c s a) :
    l.Holds c s x post' := by
  apply Dialogue.Keeps.mono h
  intro c s r hr
  cases r with
  | ok a => exact himp c s a hr
  | error e => exact hr

theorem Holds.asks_of_after {x : Act σ ε α} {post : Course σ -> σ -> α -> Prop}
    (h : l.Holds c s x post) {c' : Course σ} {s' : σ} {q : Query}
    {next : q.Answer -> Dialogue σ (Except ε α)} (hafter : (x s).After c' (.ask s' q next)) :
    l.asks (c ++ c') s' q :=
  (Dialogue.Keeps.after h hafter).left

theorem Holds.of_ends {x : Act σ ε α} {post : Course σ -> σ -> α -> Prop}
    (h : l.Holds c s x post) {c' : Course σ} {s' : σ} {a : α}
    (hends : (x s).Ends c' s' (.ok a)) : post (c ++ c') s' a :=
  Dialogue.Keeps.after h hends

theorem holds_congr {x : Act σ ε α} {post post' : Course σ -> σ -> α -> Prop}
    (hiff : forall c s a, post c s a <-> post' c s a) :
    l.Holds c s x post <-> l.Holds c s x post' := by
  constructor
  · intro h
    exact h.mono fun c s a => (hiff c s a).mp
  · intro h
    exact h.mono fun c s a => (hiff c s a).mpr

theorem Holds.and_ends {x : Act σ ε α} {post : Course σ -> σ -> α -> Prop}
    (h : l.Holds c s x post) :
    l.Holds c s x fun c' s' a =>
      post c' s' a ∧ exists back, c' = c ++ back ∧ (x s).Ends back s' (.ok a) := by
  apply (Dialogue.Keeps.and_ends h).mono
  intro c' s' r hr
  cases r with
  | ok a => exact hr
  | error e => exact hr.left

/-!
# Rules

There is one rule for each operation.  It says what the law asks for where the operation asks a
question, and what has to hold behind it for every answer.
-/

@[simp] theorem holds_pure {a : α} {post : Course σ -> σ -> α -> Prop} :
    l.Holds c s (pure a) post <-> post c s a :=
  Iff.rfl

@[simp] theorem holds_bind {x : Act σ ε α} {f : α -> Act σ ε β}
    {post : Course σ -> σ -> β -> Prop} :
    l.Holds c s (x >>= f) post <->
      l.Holds c s x fun c s a => l.Holds c s (f a) post := by
  refine Iff.trans (Dialogue.keeps_bind (d := x s)) ?_
  constructor
  · intro h
    apply h.mono
    intro c s r hr
    cases r with
    | ok a => exact hr
    | error e => exact hr
  · intro h
    apply Dialogue.Keeps.mono h
    intro c s r hr
    cases r with
    | ok a => exact hr
    | error e => exact hr

@[simp] theorem holds_fail {e : ε} {post : Course σ -> σ -> α -> Prop} :
    l.Holds c s (Act.fail e) post <-> l.fails c s e :=
  Iff.rfl

@[simp] theorem holds_get {post : Course σ -> σ -> σ -> Prop} :
    l.Holds c s Act.get post <-> post c s s :=
  Iff.rfl

@[simp] theorem holds_modify {f : σ -> σ} {post : Course σ -> σ -> Unit -> Prop} :
    l.Holds c s (Act.modify f) post <-> post c (f s) () :=
  Iff.rfl

@[simp] theorem holds_tell {event : Event} {post : Course σ -> σ -> Unit -> Prop} :
    l.Holds c s (Act.tell event) post <->
      l.asks c s (.tell event) ∧ post (c ++ [⟨s, .tell event, ()⟩]) s () := by
  constructor
  · intro h
    exact ⟨h.left, h.right ()⟩
  · intro h
    exact ⟨h.left, fun _ => h.right⟩

@[simp] theorem holds_number {snippets : List Snippet} {post : Course σ -> σ -> Nat -> Prop} :
    l.Holds c s (Act.number snippets) post <->
      l.asks c s (.number snippets) ∧
        forall base : Nat, post (c ++ [⟨s, .number snippets, base⟩]) s base :=
  Iff.rfl

theorem asks_and_needs {q : Query} {wrap : ServiceError -> ε}
    (exchange : Except ServiceError α -> Exchange σ) {post : Course σ -> σ -> α -> Prop} :
    (l.asks c s q ∧
      forall answer, l.Holds (c ++ [exchange answer]) s (Act.need wrap answer) post) <->
      l.asks c s q ∧ (forall a, post (c ++ [exchange (.ok a)]) s a) ∧
        forall e, l.fails (c ++ [exchange (.error e)]) s (wrap e) := by
  constructor
  · intro h
    exact ⟨h.left, fun a => h.right (.ok a), fun e => h.right (.error e)⟩
  · intro h
    refine ⟨h.left, fun answer => ?_⟩
    cases answer with
    | ok a => exact h.right.left a
    | error e => exact h.right.right e

@[simp] theorem holds_complete {wrap : ServiceError -> ε} {model : Option String}
    {context : List Message} {post : Course σ -> σ -> Message -> Prop} :
    l.Holds c s (Act.complete wrap model context) post <->
      l.asks c s (.complete model context) ∧
        (forall reply, post (c ++ [⟨s, .complete model context, .ok reply⟩]) s reply) ∧
          forall e, l.fails (c ++ [⟨s, .complete model context, .error e⟩]) s (wrap e) :=
  asks_and_needs fun answer => ⟨s, .complete model context, answer⟩

@[simp] theorem holds_search {wrap : ServiceError -> ε} {text : String} {limit : Nat}
    {post : Course σ -> σ -> List Snippet -> Prop} :
    l.Holds c s (Act.search wrap text limit) post <->
      l.asks c s (.search text limit) ∧
        (forall hits, post (c ++ [⟨s, .search text limit, .ok hits⟩]) s hits) ∧
          forall e, l.fails (c ++ [⟨s, .search text limit, .error e⟩]) s (wrap e) :=
  asks_and_needs fun answer => ⟨s, .search text limit, answer⟩

@[simp] theorem holds_execute {wrap : ServiceError -> ε} {source : String}
    {post : Course σ -> σ -> Script.Outcome -> Prop} :
    l.Holds c s (Act.execute wrap source) post <->
      l.asks c s (.execute source) ∧
        (forall outcome, post (c ++ [⟨s, .execute source, .ok outcome⟩]) s outcome) ∧
          forall e, l.fails (c ++ [⟨s, .execute source, .error e⟩]) s (wrap e) :=
  asks_and_needs fun answer => ⟨s, .execute source, answer⟩

end Law
end Colloquy
