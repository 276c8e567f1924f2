import Colloquy.Proofs.Dialogue.Course
import Mathlib.Data.List.Forall2

/-!
# Dialogues side by side

Two dialogues are compared step by step: they ask the same questions, though a request may
carry another context, and come to the same result.  Only where the first gives up may the
second go on.  Whoever answers both alike leads them along the same course.
-/

namespace Colloquy

/-- How two dialogues are compared: what is said of their states and of the contexts of their
requests, and with which failures the first may give up. -/
structure Comparison (σ ε : Type) where
  like : σ -> σ -> Prop
  sent : List Message -> List Message -> Prop
  stops : ε -> Prop

namespace Comparison

inductive Matches (k : Comparison σ ε) (v : α -> β -> Prop) :
    Dialogue σ (Except ε α) -> Dialogue σ (Except ε β) -> Prop where
  | done {s s' : σ} {a : α} {b : β} (hlike : k.like s s') (hresult : v a b) :
      Matches k v (.done s (.ok a)) (.done s' (.ok b))
  | failed {s s' : σ} {e : ε} (hlike : k.like s s') :
      Matches k v (.done s (.error e)) (.done s' (.error e))
  /-- The first gives up. -/
  | stopped {s : σ} {e : ε} {d : Dialogue σ (Except ε β)} (hstops : k.stops e) :
      Matches k v (.done s (.error e)) d
  | asked {s s' : σ} {q : Query} {next : q.Answer -> Dialogue σ (Except ε α)}
      {next' : q.Answer -> Dialogue σ (Except ε β)} (hlike : k.like s s')
      (hnext : forall answer, Matches k v (next answer) (next' answer)) :
      Matches k v (.ask s q next) (.ask s' q next')
  | requested {s s' : σ} {model : Option String} {context context' : List Message}
      {next : (Query.complete model context).Answer -> Dialogue σ (Except ε α)}
      {next' : (Query.complete model context').Answer -> Dialogue σ (Except ε β)}
      (hlike : k.like s s') (hsent : k.sent context context')
      (hnext : forall answer : Except ServiceError Message,
        Matches k v (next answer) (next' answer)) :
      Matches k v (.ask s (.complete model context) next) (.ask s' (.complete model context') next')

variable {k : Comparison σ ε}

theorem Matches.bind {v : α -> β -> Prop} {u : γ -> δ -> Prop} {d : Dialogue σ (Except ε α)}
    {d' : Dialogue σ (Except ε β)} {f : σ -> Except ε α -> Dialogue σ (Except ε γ)}
    {g : σ -> Except ε β -> Dialogue σ (Except ε δ)} (h : k.Matches v d d')
    (hok : forall s s' a b, k.like s s' -> v a b -> k.Matches u (f s (.ok a)) (g s' (.ok b)))
    (hfailed : forall s s' e, k.like s s' -> k.Matches u (f s (.error e)) (g s' (.error e)))
    (hstopped : forall s e d, k.stops e -> k.Matches u (f s (.error e)) d) :
    k.Matches u (d.bind f) (d'.bind g) := by
  induction h with
  | done hlike hresult => exact hok _ _ _ _ hlike hresult
  | failed hlike => exact hfailed _ _ _ hlike
  | stopped hstops => exact hstopped _ _ _ hstops
  | asked hlike hnext ih => exact .asked hlike ih
  | requested hlike hsent hnext ih => exact .requested hlike hsent ih

def Relates (k : Comparison σ ε) (x : Act σ ε α) (y : Act σ ε β) (v : α -> β -> Prop) : Prop :=
  forall s s', k.like s s' -> k.Matches v (x s) (y s')

/-!
# Rules

Operations that keep two dialogues in step, one rule for each.
-/

theorem relates_pure {a : α} {b : β} {v : α -> β -> Prop} (h : v a b) :
    k.Relates (pure a) (pure b) v :=
  fun _ _ hlike => .done hlike h

theorem relates_fail {e : ε} {v : α -> β -> Prop} :
    k.Relates (Act.fail e) (Act.fail e) v :=
  fun _ _ hlike => .failed hlike

theorem relates_stopped {e : ε} {y : Act σ ε β} {v : α -> β -> Prop} (h : k.stops e) :
    k.Relates (Act.fail e) y v :=
  fun _ _ _ => .stopped h

theorem relates_get : k.Relates Act.get Act.get k.like :=
  fun _ _ hlike => .done hlike hlike

theorem relates_modify {f g : σ -> σ} (h : forall s s', k.like s s' -> k.like (f s) (g s')) :
    k.Relates (Act.modify f) (Act.modify g) Eq :=
  fun s s' hlike => .done (h s s' hlike) rfl

theorem relates_ask {q : Query} : k.Relates (Act.ask q) (Act.ask q) Eq :=
  fun _ _ hlike => .asked hlike fun _ => .done hlike rfl

theorem Relates.bind {x : Act σ ε α} {y : Act σ ε β} {v : α -> β -> Prop}
    {f : α -> Act σ ε γ} {g : β -> Act σ ε δ} {u : γ -> δ -> Prop} (h : k.Relates x y v)
    (hnext : forall a b, v a b -> k.Relates (f a) (g b) u) :
    k.Relates (x >>= f) (y >>= g) u := by
  intro s s' hlike
  refine Matches.bind (h s s' hlike) ?_ ?_ ?_
  · intro s s' a b hlike hresult
    exact hnext a b hresult s s' hlike
  · intro s s' e hlike
    exact .failed hlike
  · intro s e d hstops
    exact .stopped hstops

theorem Relates.bind_eq {x y : Act σ ε α} {f : α -> Act σ ε γ} {g : α -> Act σ ε δ}
    {u : γ -> δ -> Prop} (h : k.Relates x y Eq) (hnext : forall a, k.Relates (f a) (g a) u) :
    k.Relates (x >>= f) (y >>= g) u := by
  refine h.bind ?_
  rintro a _ rfl
  exact hnext a

theorem relates_need {wrap : ServiceError -> ε} {answer : Except ServiceError α} :
    k.Relates (Act.need wrap answer) (Act.need wrap answer) Eq := by
  cases answer with
  | ok a => exact relates_pure rfl
  | error e => exact relates_fail

theorem relates_search {wrap : ServiceError -> ε} {text : String} {limit : Nat} :
    k.Relates (Act.search wrap text limit) (Act.search wrap text limit) Eq :=
  relates_ask.bind_eq fun _ => relates_need

theorem relates_execute {wrap : ServiceError -> ε} {source : String} :
    k.Relates (Act.execute wrap source) (Act.execute wrap source) Eq :=
  relates_ask.bind_eq fun _ => relates_need

theorem relates_complete {wrap : ServiceError -> ε} {model : Option String}
    {context context' : List Message} (h : k.sent context context') :
    k.Relates (Act.complete wrap model context) (Act.complete wrap model context') Eq := by
  intro s s' hlike
  refine .requested hlike h fun answer => ?_
  exact relates_need s s' hlike

/-!
# Courses

Dialogues that are in step take courses that are alike, as far as the first of them goes, if
both get the same answers.
-/

inductive Alike (k : Comparison σ ε) : Exchange σ -> Exchange σ -> Prop where
  | asked {s s' : σ} {q : Query} {answer : q.Answer} (hlike : k.like s s') :
      Alike k ⟨s, q, answer⟩ ⟨s', q, answer⟩
  | requested {s s' : σ} {model : Option String} {context context' : List Message}
      {answer : Except ServiceError Message} (hlike : k.like s s')
      (hsent : k.sent context context') :
      Alike k ⟨s, .complete model context, answer⟩ ⟨s', .complete model context', answer⟩

theorem Alike.eq {x x' : Exchange σ} (h : k.Alike x x') (hlike : forall s s', k.like s s' -> s = s')
    (hsent : forall c c', k.sent c c' -> c = c') : x = x' := by
  cases h with
  | asked h => rw [hlike _ _ h]
  | requested h hcontext =>
      cases hlike _ _ h
      cases hsent _ _ hcontext
      rfl

/-- The same questions get the same answers, and so do requests with contexts related by
`sent`.  Memories that are `alike` stay so. -/
structure Answers (sent : List Message -> List Message -> Prop) (alike : τ -> τ' -> Prop)
    (answer : Dialogue.Answerer τ) (answer' : Dialogue.Answerer τ') : Prop where
  asked : forall t t' q, alike t t' ->
    (answer t q).1 = (answer' t' q).1 ∧ alike (answer t q).2 (answer' t' q).2
  requested : forall t t' model context context', alike t t' -> sent context context' ->
    (answer t (.complete model context)).1 = (answer' t' (.complete model context')).1 ∧
      alike (answer t (.complete model context)).2 (answer' t' (.complete model context')).2

theorem answers_self {answer : Dialogue.Answerer τ} : Answers Eq Eq answer answer where
  asked := by
    rintro t _ q rfl
    exact ⟨rfl, rfl⟩
  requested := by
    rintro t _ model context _ rfl rfl
    exact ⟨rfl, rfl⟩

/-- Led by those who answer alike, the second dialogue begins with the exchanges of the
first.  It goes on only where the first gives up, and comes to the same end otherwise. -/
theorem Matches.along {d d' : Dialogue σ (Except ε α)} {alike : τ -> τ' -> Prop}
    {answer : Dialogue.Answerer τ} {answer' : Dialogue.Answerer τ'} {t : τ} {t' : τ'}
    (h : k.Matches Eq d d') (hanswers : Answers k.sent alike answer answer') (ht : alike t t') :
    exists front back, d'.course answer' t' = front ++ back ∧
      List.Forall₂ k.Alike (d.course answer t) front ∧
      ((exists e, (d.play answer t).2.2 = .error e ∧ k.stops e) ∨
        back = [] ∧ alike (d.play answer t).1 (d'.play answer' t').1 ∧
          k.like (d.play answer t).2.1 (d'.play answer' t').2.1 ∧
          (d.play answer t).2.2 = (d'.play answer' t').2.2) := by
  induction h generalizing t t' with
  | done hlike hresult =>
      exact ⟨[], [], rfl, .nil, Or.inr ⟨rfl, ht, hlike, congrArg Except.ok hresult⟩⟩
  | failed hlike => exact ⟨[], [], rfl, .nil, Or.inr ⟨rfl, ht, hlike, rfl⟩⟩
  | stopped hstops => exact ⟨[], _, rfl, .nil, Or.inl ⟨_, rfl, hstops⟩⟩
  | @asked s s' q next next' hlike hnext ih =>
      rcases hr : answer t q with ⟨reply, u⟩
      rcases hr' : answer' t' q with ⟨reply', u'⟩
      have hasked := hanswers.asked t t' q ht
      rw [hr, hr'] at hasked
      rcases hasked with ⟨rfl, hu⟩
      rcases ih reply hu with ⟨front, back, hcourse, hfront, hend⟩
      rw [Dialogue.course_ask hr, Dialogue.course_ask hr', Dialogue.play_ask hr,
        Dialogue.play_ask hr', hcourse]
      exact ⟨_ :: front, back, rfl, .cons (.asked hlike) hfront, hend⟩
  | @requested s s' model context context' next next' hlike hsent hnext ih =>
      rcases hr : answer t (.complete model context) with ⟨reply, u⟩
      rcases hr' : answer' t' (.complete model context') with ⟨reply', u'⟩
      have hasked := hanswers.requested t t' model context context' ht hsent
      rw [hr, hr'] at hasked
      rcases hasked with ⟨rfl, hu⟩
      rcases ih reply hu with ⟨front, back, hcourse, hfront, hend⟩
      rw [Dialogue.course_ask hr, Dialogue.course_ask hr', Dialogue.play_ask hr,
        Dialogue.play_ask hr', hcourse]
      exact ⟨_ :: front, back, rfl, .cons (.requested hlike hsent) hfront, hend⟩

end Comparison
end Colloquy
