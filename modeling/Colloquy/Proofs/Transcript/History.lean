import Colloquy.Proofs.Transcript.Pruning

/-!
# Histories of a transcript

Messages are pushed and contexts are prepared, each under a policy of its own.  A message
that lives for ever is in every context after it was pushed, one that lives for `n` turns at
least in the first `n + 1`, and in no other if all that has expired is always left out.
-/

namespace Colloquy

namespace Entry

theorem isExpired_eq_of_ttl {e : Entry} {n : Nat} (h : e.message.ttl = some n) :
    e.isExpired = decide (n < e.turns) := by
  rw [isExpired, remaining, h]
  show decide ((n : Int) - (e.turns : Int) < 0) = decide (n < e.turns)
  apply decide_eq_decide.mpr
  omega

theorem isExpired_eq_false {e : Entry} (h : e.message.ttl = none) : e.isExpired = false := by
  rw [isExpired, remaining, h]
  rfl

theorem isExpired_eq_false_of_new {m : Message} : isExpired { message := m } = false := by
  cases h : m.ttl with
  | none => exact isExpired_eq_false h
  | some n => exact isExpired_eq_of_ttl h

end Entry

namespace Transcript

open Pruning (Policy)

inductive Operation where
  | push (message : Message)
  | prepare (policy : Policy)

def Operation.pushed? : Operation -> Option Message
  | push m => some m
  | prepare _ => none

def perform (t : Transcript) : Operation -> Transcript
  | .push m => t.push m
  | .prepare p => afterRequest p t

def after (t : Transcript) (ops : List Operation) : Transcript :=
  ops.foldl perform t

/-- A context is prepared from a transcript under a policy. -/
structure Preparation where
  transcript : Transcript
  policy : Policy

namespace Preparation

def context (x : Preparation) : List Message :=
  Transcript.context x.policy x.transcript

def carries (x : Preparation) (i : Nat) : Bool :=
  x.policy.keeps x.transcript i

end Preparation

def prepared (t : Transcript) : List Operation -> List Preparation
  | [] => []
  | .push m :: ops => prepared (t.push m) ops
  | .prepare p :: ops => ⟨t, p⟩ :: prepared (afterRequest p t) ops

section

variable {t : Transcript} {ops : List Operation} {e : Entry} {i : Nat}

theorem after_append {ops' : List Operation} : after t (ops ++ ops') = after (after t ops) ops' :=
  List.foldl_append

theorem prepared_append {ops' : List Operation} :
    prepared t (ops ++ ops') = prepared t ops ++ prepared (after t ops) ops' := by
  induction ops generalizing t with
  | nil => rfl
  | cons op ops ih =>
      cases op with
      | push m => exact ih
      | prepare p => exact congrArg (_ :: ·) ih

theorem length_prepared_le : (prepared t ops).length <= ops.length := by
  induction ops generalizing t with
  | nil => exact Nat.le_refl 0
  | cons op ops ih =>
      cases op with
      | push m => exact Nat.le_succ_of_le ih
      | prepare p => exact Nat.succ_le_succ ih

theorem messages_after :
    messages (after t ops) = messages t ++ ops.filterMap Operation.pushed? := by
  induction ops generalizing t with
  | nil => exact (List.append_nil _).symm
  | cons op ops ih =>
      cases op with
      | push m =>
          show messages (after (t.push m) ops) = _
          rw [ih, messages_push, List.append_assoc]
          rfl
      | prepare p =>
          show messages (after (afterRequest p t) ops) = _
          rw [ih, messages_afterRequest]
          rfl

theorem getElem?_push (h : t[i]? = some e) {m : Message} : (t.push m)[i]? = some e := by
  rw [push, List.getElem?_append_left (List.getElem?_eq_some_iff.mp h).choose]
  exact h

theorem getElem?_push_length {m : Message} : (t.push m)[t.length]? = some { message := m } := by
  rw [push, List.getElem?_append_right (Nat.le_refl _), Nat.sub_self]
  rfl

/-- An entry counts the contexts that have carried it. -/
theorem getElem?_after (h : t[i]? = some e) : (after t ops)[i]? =
    some { e with turns := e.turns + (prepared t ops).countP fun x => x.carries i } := by
  induction ops generalizing t e with
  | nil => exact h
  | cons op ops ih =>
      cases op with
      | push m => exact ih (getElem?_push h)
      | prepare p =>
          have hkept := getElem?_afterRequest (p := p) (t := t) (i := i)
          rw [h, Option.map_some] at hkept
          show (after (afterRequest p t) ops)[i]? = _
          rw [ih hkept, prepared, List.countP_cons]
          show _ = some { e with turns := e.turns + (_ + if p.keeps t i = true then 1 else 0) }
          split
          · simp only [Entry.carried]
            congr 2
            omega
          · rfl

theorem keeps_of_le {p : Policy} (h : t.length <= i) : p.keeps t i = false := by
  rw [Policy.keeps, List.getElem?_eq_none (Policy.length_select.symm ▸ h)]
  rfl

theorem turns_eq_of_getElem?_after (hi : t.length <= i) (h : (after t ops)[i]? = some e) :
    e.turns = (prepared t ops).countP fun x => x.carries i := by
  induction ops generalizing t with
  | nil =>
      rw [after, List.foldl_nil, List.getElem?_eq_none hi] at h
      cases h
  | cons op ops ih =>
      cases op with
      | push m =>
          rcases Nat.lt_or_eq_of_le hi with hlt | rfl
          · refine ih ?_ h
            rw [push, List.length_append]
            exact hlt
          · have hlast : (after (t.push m) ops)[t.length]? = some e := h
            rw [getElem?_after getElem?_push_length] at hlast
            cases hlast
            exact Nat.zero_add _
      | prepare p =>
          rw [prepared, List.countP_cons]
          show _ = _ + if p.keeps t i = true then 1 else 0
          rw [keeps_of_le hi]
          refine ih ?_ h
          rw [length_afterRequest]
          exact hi

/-!
# How long a message stays

An entry counts the contexts that have carried it, and has expired when there are more of these
than turns in its time to live.
-/

theorem carries_of_forever (h : t[i]? = some e) (hforever : e.message.ttl = none) :
    forall x, x ∈ prepared t ops -> x.carries i = true := by
  induction ops generalizing t e with
  | nil =>
      intro x hx
      cases hx
  | cons op ops ih =>
      cases op with
      | push m => exact ih (getElem?_push h) hforever
      | prepare p =>
          have hkept : p.keeps t i = true :=
            Policy.keeps_of_not_expired h (Entry.isExpired_eq_false hforever)
          have hnext : (afterRequest p t)[i]? = some e.carried := by
            rw [getElem?_afterRequest, h, Option.map_some, hkept]
            rfl
          exact List.forall_mem_cons.mpr ⟨hkept, ih hnext hforever⟩

theorem carries_of_mem_take {n : Nat} (h : t[i]? = some e) (httl : e.message.ttl = some n) :
    forall x, x ∈ (prepared t ops).take (n + 1 - e.turns) -> x.carries i = true := by
  induction ops generalizing t e with
  | nil =>
      intro x hx
      rw [prepared, List.take_nil] at hx
      cases hx
  | cons op ops ih =>
      cases op with
      | push m => exact ih (getElem?_push h) httl
      | prepare p =>
          cases hleft : n + 1 - e.turns with
          | zero =>
              intro x hx
              cases hx
          | succ left =>
              have halive : e.isExpired = false := by
                rw [Entry.isExpired_eq_of_ttl httl, decide_eq_false_iff_not]
                omega
              have hkept : p.keeps t i = true := Policy.keeps_of_not_expired h halive
              have hnext : (afterRequest p t)[i]? = some e.carried := by
                rw [getElem?_afterRequest, h, Option.map_some, hkept]
                rfl
              have hrest := ih hnext httl
              have hturns : n + 1 - e.carried.turns = left := by
                show n + 1 - (e.turns + 1) = left
                omega
              rw [hturns] at hrest
              exact List.forall_mem_cons.mpr ⟨hkept, hrest⟩

theorem not_carries_of_mem_drop {n : Nat} (h : t[i]? = some e) (httl : e.message.ttl = some n)
    (halways : forall p, .prepare p ∈ ops -> p.trigger = .always) :
    forall x, x ∈ (prepared t ops).drop (n + 1 - e.turns) -> x.carries i = false := by
  induction ops generalizing t e with
  | nil =>
      intro x hx
      rw [prepared, List.drop_nil] at hx
      cases hx
  | cons op ops ih =>
      have hrest : forall p, .prepare p ∈ ops -> p.trigger = .always :=
        fun p hp => halways p (List.mem_cons_of_mem op hp)
      cases op with
      | push m => exact ih (getElem?_push h) httl hrest
      | prepare p =>
          have hkeeps := Policy.keeps_eq_of_always (halways p List.mem_cons_self) h
          rw [Entry.isExpired_eq_of_ttl httl] at hkeeps
          have hnext := getElem?_afterRequest (p := p) (t := t) (i := i)
          rw [h, Option.map_some, hkeeps] at hnext
          cases hleft : n + 1 - e.turns with
          | zero =>
              have hexpired : n < e.turns := by omega
              rw [decide_eq_true hexpired] at hkeeps hnext
              have hlater := ih hnext httl hrest
              have hzero : n + 1 - (if (!true) = true then e.carried else e).turns = 0 := hleft
              rw [hzero] at hlater
              exact List.forall_mem_cons.mpr ⟨hkeeps, hlater⟩
          | succ left =>
              have halive : ¬ n < e.turns := by omega
              rw [decide_eq_false halive] at hnext
              have hlater := ih hnext httl hrest
              have hturns : n + 1 - (if (!false) = true then e.carried else e).turns = left := by
                show n + 1 - (e.turns + 1) = left
                omega
              rw [hturns] at hlater
              exact hlater

end

/-!
# Whole histories
-/

/-- The contexts carry a message, which stands at this place, for as long as it lives. -/
structure Lives (i : Nat) (m : Message) (ops : List Operation) (contexts : List Preparation) :
    Prop where
  next : forall x, contexts.head? = some x -> x.carries i = true
  forever : m.ttl = none -> forall x, x ∈ contexts -> x.carries i = true
  long : forall n, m.ttl = some n -> forall x, x ∈ contexts.take (n + 1) -> x.carries i = true
  noLonger : (forall p, .prepare p ∈ ops -> p.trigger = .always) -> forall n, m.ttl = some n ->
    forall x, x ∈ contexts.drop (n + 1) -> x.carries i = false

theorem lives_of_push {t : Transcript} {m : Message} {ops : List Operation} :
    Lives t.length m ops (prepared (t.push m) ops) := by
  have hnew : (t.push m)[t.length]? = some { message := m } := getElem?_push_length
  have hlong : forall n, m.ttl = some n ->
      forall x, x ∈ (prepared (t.push m) ops).take (n + 1) -> x.carries t.length = true :=
    fun n => carries_of_mem_take hnew
  refine ⟨?_, carries_of_forever hnew, hlong, fun halways n httl =>
    not_carries_of_mem_drop hnew httl halways⟩
  intro x hx
  cases httl : m.ttl with
  | none => exact carries_of_forever hnew httl x (List.mem_of_mem_head? hx)
  | some n =>
      rcases List.head?_eq_some_iff.mp hx with ⟨rest, hrest⟩
      refine hlong n httl x ?_
      rw [hrest]
      exact List.mem_cons_self

/-- Along any history under any policies: a context has the messages that it carries in the
order of the transcript, the transcript only grows by what is pushed, an entry counts the
contexts that have carried it, and contexts carry a message for as long as it lives. -/
theorem ttl_honoured (ops : List Operation) :
    (forall x, x ∈ prepared [] ops ->
      x.context = ((x.transcript.zipIdx.filter fun e => x.carries e.2).map fun e => e.1.message) ∧
        x.context.Sublist x.transcript.messages) ∧
      (forall front p back, ops = front ++ .prepare p :: back -> exists later,
        prepared [] ops = prepared [] front ++ ⟨after [] front, p⟩ :: later) ∧
      (forall front back, ops = front ++ back ->
        (after [] ops).messages =
          (after [] front).messages ++ back.filterMap Operation.pushed?) ∧
      (forall i e, (after [] ops)[i]? = some e ->
        e.turns = ((prepared [] ops).countP fun x => x.carries i) ∧ e.turns <= ops.length) ∧
      forall front m back, ops = front ++ .push m :: back -> exists later,
        prepared [] ops = prepared [] front ++ later ∧
          (after [] ops).messages[(after [] front).length]? = some m ∧
          Lives (after [] front).length m back later := by
  refine ⟨?_, ?_, ?_, ?_, ?_⟩
  · intro x _
    exact ⟨context_eq, context_sublist⟩
  · rintro front p back rfl
    exact ⟨_, prepared_append⟩
  · rintro front back rfl
    rw [after_append, messages_after]
  · intro i e h
    have hturns := turns_eq_of_getElem?_after (Nat.zero_le i) h
    refine ⟨hturns, ?_⟩
    rw [hturns]
    exact Nat.le_trans List.countP_le_length length_prepared_le
  · rintro front m back rfl
    refine ⟨_, prepared_append, ?_, lives_of_push⟩
    rw [after_append, messages, List.getElem?_map]
    show ((after ((after [] front).push m) back)[(after [] front).length]?).map Entry.message = _
    rw [getElem?_after getElem?_push_length]
    rfl

def hinted : List Operation :=
  [.push { role := .user, text := "hint", ttl := some 0 },
    .push { role := .system, text := "rule" },
    .prepare { trigger := .always }, .prepare { trigger := .always }]

theorem hinted_honoured :
    (forall x, x ∈ (prepared [] hinted).take 1 -> x.carries 0 = true) ∧
      (forall x, x ∈ (prepared [] hinted).drop 1 -> x.carries 0 = false) ∧
      (prepared [] hinted).map Preparation.context = [
        [{ role := .user, text := "hint", ttl := some 0 }, { role := .system, text := "rule" }],
        [{ role := .system, text := "rule" }]] := by
  rcases (ttl_honoured hinted).right.right.right.right [] _ _ rfl with ⟨later, hlater, _, hlives⟩
  have halways : forall p, Operation.prepare p ∈ hinted.tail -> p.trigger = .always := by
    intro p hp
    have hp : p = { trigger := .always } := by simpa [hinted] using hp
    rw [hp]
  have hcontexts : prepared [] hinted = later := hlater
  refine ⟨?_, ?_, by decide +kernel⟩
  · rw [hcontexts]
    exact hlives.long 0 rfl
  · rw [hcontexts]
    exact hlives.noLonger halways 0 rfl

end Transcript
end Colloquy
