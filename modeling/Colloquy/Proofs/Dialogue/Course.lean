import Colloquy.Dialogue

/-!
# Courses of dialogues

A course lists the questions that were asked so far, each with the state that it
showed and with its answer.  Since a dialogue is a tree, what holds after every course
holds for all behaviours of the services.
-/

namespace Colloquy

instance decidableEqExcept {ε α : Type} [DecidableEq ε] [DecidableEq α] :
    DecidableEq (Except ε α)
  | .error e, .error e' => decidable_of_iff (e = e') ⟨congrArg _, Except.error.inj⟩
  | .ok a, .ok a' => decidable_of_iff (a = a') ⟨congrArg _, Except.ok.inj⟩
  | .error _, .ok _ => isFalse nofun
  | .ok _, .error _ => isFalse nofun

structure Exchange (σ : Type) where
  state : σ
  query : Query
  answer : query.Answer

abbrev Course (σ : Type) := List (Exchange σ)

namespace Dialogue

/-- The questions of a dialogue were answered as in the course, and `rest` is left. -/
inductive After : Dialogue σ α -> Course σ -> Dialogue σ α -> Prop where
  | start (d : Dialogue σ α) : After d [] d
  | answered {s : σ} {q : Query} {next : q.Answer -> Dialogue σ α} {c : Course σ}
      {rest : Dialogue σ α} (answer : q.Answer) :
      After (next answer) c rest -> After (ask s q next) (⟨s, q, answer⟩ :: c) rest

def Ends (d : Dialogue σ α) (c : Course σ) (s : σ) (a : α) : Prop :=
  d.After c (done s a)

/-- The state that the next question shows, or the last one. -/
def shown : Dialogue σ α -> σ
  | done s _ => s
  | ask s _ _ => s

theorem After.append {d e f : Dialogue σ α} {c c' : Course σ} (hd : d.After c e)
    (he : e.After c' f) : d.After (c ++ c') f := by
  induction hd with
  | start d => exact he
  | answered answer _ ih => exact After.answered answer (ih he)

theorem After.bind {d e : Dialogue σ α} {c : Course σ} (h : d.After c e)
    (f : σ -> α -> Dialogue σ β) : (d.bind f).After c (e.bind f) := by
  induction h with
  | start d => exact After.start _
  | answered answer _ ih => exact After.answered answer ih

theorem After.of_append {d rest : Dialogue σ α} {front back : Course σ} {x : Exchange σ}
    (h : d.After (front ++ x :: back) rest) :
    exists next, d.After front (ask x.state x.query next) ∧ (next x.answer).After back rest := by
  induction front generalizing d with
  | nil =>
      cases h with
      | answered answer hnext => exact ⟨_, After.start _, hnext⟩
  | cons y front ih =>
      cases h with
      | answered answer hnext =>
          rcases ih hnext with ⟨next, hfront, hback⟩
          exact ⟨next, After.answered answer hfront, hback⟩

/-- A course of a dialogue in two parts ends in the first part, or goes through it. -/
theorem After.of_bind {d : Dialogue σ α} {f : σ -> α -> Dialogue σ β} {c : Course σ}
    {rest : Dialogue σ β} (h : (d.bind f).After c rest) :
    (exists e, d.After c e ∧ rest = e.bind f) ∨
      exists front back s a, c = front ++ back ∧ d.Ends front s a ∧ (f s a).After back rest := by
  induction d generalizing c with
  | done s a => exact Or.inr ⟨[], c, s, a, rfl, After.start _, h⟩
  | ask s q next ih =>
      cases h with
      | start => exact Or.inl ⟨_, After.start _, rfl⟩
      | answered answer hnext =>
          rcases ih answer hnext with ⟨e, he, hrest⟩ | ⟨front, back, s', a, hc, hends, hback⟩
          · exact Or.inl ⟨e, After.answered answer he, hrest⟩
          · refine Or.inr ⟨_ :: front, back, s', a, ?_, After.answered answer hends, hback⟩
            rw [hc]
            rfl

end Dialogue

theorem Act.after_bind {x : Act σ ε α} {f : α -> Act σ ε β} {s s' : σ} {c : Course σ} {q : Query}
    {next : q.Answer -> Dialogue σ (Except ε β)}
    (h : ((x >>= f) s).After c (.ask s' q next)) :
    (exists more, (x s).After c (.ask s' q more) ∧
        forall answer, next answer = ((fun _ => more answer : Act σ ε α) >>= f) s') ∨
      exists front back t a, c = front ++ back ∧ (x s).Ends front t (.ok a) ∧
        (f a t).After back (.ask s' q next) := by
  rcases Dialogue.After.of_bind (d := x s) h with
    ⟨e, he, hrest⟩ | ⟨front, back, t, r, hc, hends, hback⟩
  · cases e with
    | done t r =>
        cases r with
        | ok a =>
            refine Or.inr ⟨c, [], t, a, (List.append_nil c).symm, he, ?_⟩
            rw [hrest]
            exact Dialogue.After.start _
        | error e => cases hrest
    | ask t q' more =>
        cases hrest
        exact Or.inl ⟨more, he, fun _ => rfl⟩
  · cases r with
    | ok a => exact Or.inr ⟨front, back, t, a, hc, hends, hback⟩
    | error e => cases hback

namespace Dialogue

def course (answer : Answerer τ) : τ -> Dialogue σ α -> Course σ
  | _, done _ _ => []
  | t, ask s q next =>
      ⟨s, q, (answer t q).1⟩ :: course answer (answer t q).2 (next (answer t q).1)

section

variable {answer : Answerer τ} {t u : τ} {s : σ} {q : Query} {next : q.Answer -> Dialogue σ α}
  {reply : q.Answer}

theorem course_ask (h : answer t q = (reply, u)) :
    (ask s q next).course answer t = ⟨s, q, reply⟩ :: (next reply).course answer u := by
  rw [course, h]

theorem play_ask (h : answer t q = (reply, u)) :
    (ask s q next).play answer t = (next reply).play answer u := by
  rw [play, h]

end

theorem ends_course (answer : Answerer τ) (t : τ) (d : Dialogue σ α) :
    d.Ends (d.course answer t) (d.play answer t).2.1 (d.play answer t).2.2 := by
  induction d generalizing t with
  | done s a => exact After.start _
  | ask s q next ih => exact After.answered (answer t q).1 (ih (answer t q).1 (answer t q).2)

theorem ends_of_play (answer : Answerer τ) (t : τ) {d : Dialogue σ α} {a : α}
    (h : (d.play answer t).2.2 = a) :
    d.Ends (d.course answer t) (d.play answer t).2.1 a := by
  rw [← h]
  exact ends_course answer t d

theorem exists_after_of_course {answer : Answerer τ} {t : τ} {d : Dialogue σ α} {n : Nat}
    {q : Query} (h : (d.course answer t)[n]?.map Exchange.query = some q) :
    exists s next, d.After ((d.course answer t).take n) (ask s q next) := by
  rcases Option.map_eq_some_iff.mp h with ⟨x, hx, rfl⟩
  rcases List.getElem?_eq_some_iff.mp hx with ⟨hn, hx⟩
  have hends := ends_course answer t d
  rw [Ends, ← List.take_append_drop n (d.course answer t), List.drop_eq_getElem_cons hn,
    hx] at hends
  rcases hends.of_append with ⟨next, hafter, _⟩
  exact ⟨x.state, next, hafter⟩

theorem exists_ends_play (answer : Answerer τ) (t : τ) (d : Dialogue σ α) :
    exists c s a, d.Ends c s a ∧ (d.play answer t).2 = (s, a) :=
  ⟨_, _, _, ends_course answer t d, rfl⟩

def scripted (hits : Except ServiceError (List Snippet)) : Answerer (List String)
  | replies, .complete _ _ => (.ok (.ofRole .assistant (replies.headD "")), replies.tail)
  | replies, .search _ _ => (hits, replies)
  | replies, .execute _ => (.ok (.completed ""), replies)
  | replies, .number _ => ((1 : Nat), replies)
  | replies, .tell _ => ((), replies)

end Dialogue
end Colloquy
