import Colloquy.Proofs.Transcript.History
import Colloquy.Proofs.Transcript.Selection
import Mathlib.Data.List.Chain

/-!
# Messages that come back

Only what a context carries grows more overdue.  Under a token budget a message that was left
out can therefore come back, once others that were carried meanwhile go before it; it comes
back in no other way.
-/

namespace Colloquy
namespace Transcript

open Pruning

namespace Preparation

def next (x : Preparation) : Transcript :=
  afterRequest x.policy x.transcript

/-- The one context is prepared right after the other, but for messages pushed. -/
def Precedes (x y : Preparation) : Prop :=
  exists new : List Message, y.transcript = x.next ++ new.map fun m => { message := m }

/-- Under a token budget the second of two contexts takes this expired message back, while it
gives up another one that goes before it. -/
structure Trades (x y : Preparation) (i : Nat) : Prop where
  trigger : y.policy.trigger = .tokenBudget
  absent : x.carries i = false
  present : y.carries i = true
  traded : exists j a b, y.transcript[i]? = some a ∧ a.isExpired = true ∧
    y.transcript[j]? = some b ∧ b.isExpired = true ∧ x.carries j = true ∧ y.carries j = false ∧
    Placed.goesBefore y.policy.tieBreak (b, j) (a, i) = true

end Preparation

section

variable {t : Transcript} {ops : List Operation} {x : Preparation}

theorem prepares_of_mem (h : x ∈ prepared t ops) : .prepare x.policy ∈ ops := by
  induction ops generalizing t with
  | nil => cases h
  | cons op ops ih =>
      cases op with
      | push m => exact List.mem_cons_of_mem _ (ih h)
      | prepare p =>
          rcases List.mem_cons.mp h with rfl | hlater
          · exact List.mem_cons_self
          · exact List.mem_cons_of_mem _ (ih hlater)

theorem transcript_of_head (h : (prepared t ops).head? = some x) :
    exists new : List Message, x.transcript = t ++ new.map fun m => { message := m } := by
  induction ops generalizing t with
  | nil => cases h
  | cons op ops ih =>
      cases op with
      | push m =>
          rcases ih h with ⟨new, hnew⟩
          refine ⟨m :: new, ?_⟩
          rw [hnew, push, List.append_assoc]
          rfl
      | prepare p =>
          cases h
          exact ⟨[], (List.append_nil t).symm⟩

theorem isChain_prepared : (prepared t ops).IsChain Preparation.Precedes := by
  induction ops generalizing t with
  | nil => exact List.IsChain.nil
  | cons op ops ih =>
      cases op with
      | push m => exact ih
      | prepare p => exact List.isChain_cons.mpr ⟨fun y hy => transcript_of_head hy, ih⟩

end

/-!
# From one context to the next

A message that is left out grows no more overdue, while the others do.  It comes back only if
another one that has become more overdue goes before it.
-/

namespace Preparation.Precedes

variable {x y : Preparation} {e b : Entry} {i j : Nat}

theorem length_le (h : x.Precedes y) : x.transcript.length <= y.transcript.length := by
  rcases h with ⟨new, hnew⟩
  rw [hnew, List.length_append, next, length_afterRequest]
  exact Nat.le_add_right _ _

theorem totalTokens_le (h : x.Precedes y) :
    totalTokens x.transcript <= totalTokens y.transcript := by
  rcases h with ⟨new, hnew⟩
  rw [Pruning.totalTokens_eq, Pruning.totalTokens_eq, hnew, messages, messages, List.map_append,
    List.map_append, List.sum_append]
  show _ <= ((messages x.next).map _).sum + _
  rw [next, messages_afterRequest]
  exact Nat.le_add_right _ _

theorem getElem?_of_not_carries (h : x.Precedes y) (he : x.transcript[i]? = some e)
    (hout : x.carries i = false) : y.transcript[i]? = some e := by
  rcases h with ⟨new, hnew⟩
  have hplace : i < x.next.length := by
    rw [next, length_afterRequest]
    exact (List.getElem?_eq_some_iff.mp he).choose
  have hkeeps : x.policy.keeps x.transcript i = false := hout
  rw [hnew, List.getElem?_append_left hplace, next, getElem?_afterRequest, he, Option.map_some,
    hkeeps]
  rfl

theorem lt_length_of_isExpired (h : x.Precedes y) (hb : y.transcript[j]? = some b)
    (hexpired : b.isExpired = true) : j < x.transcript.length := by
  rcases h with ⟨new, hnew⟩
  have hnext : x.next.length = x.transcript.length := length_afterRequest
  by_contra hlate
  rw [hnew, List.getElem?_append_right (hnext ▸ Nat.le_of_not_lt hlate), List.getElem?_map,
    Option.map_eq_some_iff] at hb
  rcases hb with ⟨m, _, rfl⟩
  rw [Entry.isExpired_eq_false_of_new] at hexpired
  cases hexpired

theorem dropped_of_not_carries (h : x.Precedes y)
    (hdropped : (b, j) ∈ y.policy.dropped y.transcript) (hout : x.carries j = false) :
    (b, j) ∈ x.policy.dropped x.transcript := by
  have hb := mem_candidates_iff.mp (Policy.dropped_subset hdropped)
  have hplace := h.lt_length_of_isExpired hb.left hb.right
  have hsame := h.getElem?_of_not_carries (List.getElem?_eq_getElem hplace) hout
  rw [hb.left] at hsame
  cases hsame
  exact (Policy.keeps_eq_false_iff (List.getElem?_eq_getElem hplace)).mp hout

/-- While the same entries are left out as before, none of them comes back: those in front of
it did not bring the total within the budget, and the total has only grown. -/
theorem exists_carried_of_back (h : x.Precedes y) (hpolicy : y.policy = x.policy)
    (htrigger : x.policy.trigger = .tokenBudget)
    (hdropped : (e, i) ∈ x.policy.dropped x.transcript) (hback : y.carries i = true) :
    exists b j, (b, j) ∈ y.policy.dropped y.transcript ∧ x.carries j = true := by
  by_contra hnone
  have hgone : forall b j, (b, j) ∈ y.policy.dropped y.transcript ->
      (b, j) ∈ x.policy.dropped x.transcript := by
    intro b j hb
    refine h.dropped_of_not_carries hb (Bool.not_eq_true _ ▸ ?_)
    exact fun hcarried => hnone ⟨b, j, hb, hcarried⟩
  have he := mem_candidates_iff.mp (Policy.dropped_subset hdropped)
  have hsame : y.transcript[i]? = some e :=
    h.getElem?_of_not_carries he.left ((Policy.keeps_eq_false_iff he.left).mpr hdropped)
  rcases List.append_of_mem (Policy.dropped_subset hdropped) with ⟨front, back, hsplit⟩
  have hfront : y.policy.dropped y.transcript ⊆ front := by
    rintro ⟨b, j⟩ hb
    refine mem_front_of_goesBefore hsplit (Policy.dropped_subset (hgone b j hb)) ?_ ?_
    · rw [← hpolicy]
      exact Policy.goesBefore_of_keeps hb hsame he.right hback
    · intro heq
      cases heq
      have hout := (Policy.keeps_eq_false_iff hsame).mpr hb
      have hkept : y.policy.keeps y.transcript i = true := hback
      rw [hkept] at hout
      cases hout
  have hnodup : (y.policy.dropped y.transcript).Nodup :=
    Policy.dropped_prefix.sublist.nodup candidates_nodup
  have htokens := sumTokens_le_of_subset hnodup hfront
  have htotal := h.totalTokens_le
  have hexceeds := Policy.exceeds_of_dropped htrigger hsplit hdropped
  have hfits := Policy.fits_of_keeps (hpolicy ▸ htrigger) hsame he.right hback
  rw [hpolicy] at hfits htokens
  omega

theorem trades (h : x.Precedes y) (hpolicy : y.policy = x.policy)
    (he : x.transcript[i]? = some e) (hout : x.carries i = false) (hback : y.carries i = true) :
    x.Trades y i := by
  have hdropped := (Policy.keeps_eq_false_iff he).mp hout
  have hexpired := (mem_candidates_iff.mp (Policy.dropped_subset hdropped)).right
  have hsame := h.getElem?_of_not_carries he hout
  have htrigger : x.policy.trigger = .tokenBudget := by
    cases hcase : x.policy.trigger with
    | tokenBudget => rfl
    | never =>
        rw [Policy.dropped, hcase] at hdropped
        cases hdropped
    | always =>
        have hkeeps := Policy.keeps_eq_of_always (hpolicy ▸ hcase) hsame
        rw [hexpired] at hkeeps
        exact Bool.noConfusion (hkeeps.symm.trans hback)
  rcases h.exists_carried_of_back hpolicy htrigger hdropped hback with ⟨b, j, hgone, hcarried⟩
  have hb := mem_candidates_iff.mp (Policy.dropped_subset hgone)
  exact ⟨hpolicy ▸ htrigger, hout, hback, j, e, b, hsame, hexpired, hb.left, hb.right, hcarried,
    (Policy.keeps_eq_false_iff hb.left).mpr hgone,
    Policy.goesBefore_of_keeps hgone hsame hexpired hback⟩

end Preparation.Precedes

/-!
# Whole histories

Two messages of which one fits take turns, so what was left out under a budget can come back.
-/

/-- An expired message that a context leaves out is in no later context. -/
def PrunedForGood (contexts : List Preparation) : Prop :=
  forall before x between y later, contexts = before ++ x :: (between ++ y :: later) ->
    forall i e, x.transcript[i]? = some e -> e.isExpired = true -> x.carries i = false ->
      y.carries i = false

def cramped : Policy :=
  { trigger := .tokenBudget, maxTokens := 1 }

def alternating : List Operation :=
  [.push { role := .user, text := "one", ttl := some 0 },
    .push { role := .user, text := "two", ttl := some 0 },
    .prepare cramped, .prepare cramped, .prepare cramped]

def alternation (n : Nat) : Preparation :=
  ⟨after [] (alternating.take n), cramped⟩

theorem prepared_alternating :
    prepared [] alternating = [alternation 2] ++ alternation 3 :: ([] ++ alternation 4 :: []) :=
  rfl

def carriedTimes (m n : Nat) : Transcript :=
  [⟨{ role := .user, text := "one", ttl := some 0 }, m⟩,
    ⟨{ role := .user, text := "two", ttl := some 0 }, n⟩]

theorem cramped_select_new : cramped.select (carriedTimes 0 0) = [true, true] := by
  rw [Policy.select_eq_of_perm (l := []) rfl (by decide +kernel) (by decide +kernel)]
  decide +kernel

theorem cramped_select_even : cramped.select (carriedTimes 1 1) = [false, true] := by
  rw [Policy.select_eq_of_perm (l := [((carriedTimes 1 1)[0], 0), ((carriedTimes 1 1)[1], 1)]) rfl
    (by decide +kernel) (by decide +kernel)]
  decide +kernel

/-- The message that was carried meanwhile is more overdue. -/
theorem cramped_select_uneven : cramped.select (carriedTimes 1 2) = [true, false] := by
  rw [Policy.select_eq_of_perm (l := [((carriedTimes 1 2)[1], 1), ((carriedTimes 1 2)[0], 0)]) rfl
    (by decide +kernel) (by decide +kernel)]
  decide +kernel

theorem alternation_three : alternation 3 = ⟨carriedTimes 1 1, cramped⟩ := by
  have htranscript : (alternation 3).transcript = afterRequest cramped (carriedTimes 0 0) := rfl
  rw [afterRequest, cramped_select_new] at htranscript
  exact congrArg (Preparation.mk · cramped) htranscript

theorem alternation_four : alternation 4 = ⟨carriedTimes 1 2, cramped⟩ := by
  have htranscript :
      (alternation 4).transcript = afterRequest cramped (alternation 3).transcript := rfl
  rw [alternation_three, afterRequest, cramped_select_even] at htranscript
  exact congrArg (Preparation.mk · cramped) htranscript

theorem alternation_three_carries : (alternation 3).carries 0 = false := by
  rw [alternation_three, Preparation.carries, Policy.keeps, cramped_select_even]
  rfl

theorem alternation_four_carries : (alternation 4).carries 0 = true := by
  rw [alternation_four, Preparation.carries, Policy.keeps, cramped_select_uneven]
  rfl

theorem alternating_cramped : forall q, .prepare q ∈ alternating -> q = cramped := by
  intro q hq
  simpa [alternating] using hq

/-- The message left out of the second context is in the third again. -/
theorem alternating_not_prunedForGood :
    (forall q, .prepare q ∈ alternating -> q = cramped) ∧
      ¬ PrunedForGood (prepared [] alternating) := by
  refine ⟨alternating_cramped, fun hgood => ?_⟩
  have hgone := hgood _ _ _ _ _ prepared_alternating 0 (carriedTimes 1 1)[0]
    (by rw [alternation_three]; rfl) (by decide +kernel) alternation_three_carries
  rw [alternation_four_carries] at hgone
  cases hgone

/-- A message that comes back does so from one context to the next. -/
theorem exists_trades {x y : Preparation} {between : List Preparation} {i : Nat}
    (hchain : (x :: (between ++ [y])).IsChain Preparation.Precedes)
    (hpolicy : forall u, u ∈ x :: (between ++ [y]) -> u.policy = x.policy)
    (hplace : i < x.transcript.length) (hout : x.carries i = false) (hback : y.carries i = true) :
    exists front u v back, x :: (between ++ [y]) = front ++ u :: v :: back ∧ u.Trades v i := by
  induction between generalizing x with
  | nil =>
      have hnext : x.Precedes y := (List.isChain_cons_cons.mp hchain).left
      have hsame : y.policy = x.policy := hpolicy y (by simp)
      exact ⟨[], x, y, [], rfl,
        hnext.trades hsame (List.getElem?_eq_getElem hplace) hout hback⟩
  | cons z between ih =>
      rcases List.isChain_cons_cons.mp hchain with ⟨hnext, hrest⟩
      have hsame : z.policy = x.policy := hpolicy z (by simp)
      cases hz : z.carries i with
      | true =>
          exact ⟨[], x, z, between ++ [y], rfl,
            hnext.trades hsame (List.getElem?_eq_getElem hplace) hout hz⟩
      | false =>
          have hlater : forall u, u ∈ z :: (between ++ [y]) -> u.policy = z.policy :=
            fun u hu => (hpolicy u (List.mem_cons_of_mem x hu)).trans hsame.symm
          rcases ih hrest hlater (Nat.lt_of_lt_of_le hplace hnext.length_le) hz with
            ⟨front, u, v, back, hsplit, htrades⟩
          exact ⟨x :: front, u, v, back, congrArg (x :: ·) hsplit, htrades⟩

section

variable {p : Policy} {ops : List Operation} {before between later : List Preparation}
  {x y : Preparation} {i : Nat}

theorem part_of_split {contexts : List Preparation}
    (hsplit : contexts = before ++ x :: (between ++ y :: later)) :
    x :: (between ++ [y]) <:+: contexts :=
  ⟨before, later, by simp [hsplit]⟩

theorem policy_of_part (hp : forall q, .prepare q ∈ ops -> q = p) {contexts : List Preparation}
    (hpart : contexts <:+: prepared [] ops) : forall u, u ∈ contexts -> u.policy = p :=
  fun u hu => hp u.policy (prepares_of_mem (hpart.subset hu))

theorem trades_of_prepared (hp : forall q, .prepare q ∈ ops -> q = p)
    (hsplit : prepared [] ops = before ++ x :: (between ++ y :: later))
    (hplace : i < x.transcript.length) (hout : x.carries i = false) (hback : y.carries i = true) :
    exists front u v back, x :: (between ++ [y]) = front ++ u :: v :: back ∧ u.Trades v i := by
  have hpart := part_of_split hsplit
  have hpolicy := policy_of_part hp hpart
  have hchain := List.IsChain.infix isChain_prepared hpart
  refine exists_trades hchain ?_ hplace hout hback
  exact fun u hu => (hpolicy u hu).trans (hpolicy x List.mem_cons_self).symm

theorem prunedForGood_of_trigger (hp : forall q, .prepare q ∈ ops -> q = p)
    (htrigger : p.trigger ≠ .tokenBudget) : PrunedForGood (prepared [] ops) := by
  intro before x between y later hsplit i e he _ hout
  cases hback : y.carries i with
  | false => rfl
  | true =>
      have hplace : i < x.transcript.length := (List.getElem?_eq_some_iff.mp he).choose
      rcases trades_of_prepared hp hsplit hplace hout hback with
        ⟨front, u, v, back, hbetween, htrades⟩
      have hv : v.policy = p := by
        refine policy_of_part hp (part_of_split hsplit) v ?_
        simp [hbetween]
      exact (htrigger (hv ▸ htrades.trigger)).elim

end

/-- Under one policy, what is pruned for having expired is pruned for good unless the policy has
a token budget; with a budget, whatever comes back is traded for a message that goes before it. -/
theorem pruned_returns_in_trade (p : Policy) (ops : List Operation)
    (hp : forall q, .prepare q ∈ ops -> q = p) :
    (p.trigger ≠ .tokenBudget -> PrunedForGood (prepared [] ops)) ∧
      forall before x between y later i,
        prepared [] ops = before ++ x :: (between ++ y :: later) ->
        i < x.transcript.length -> x.carries i = false -> y.carries i = true ->
        exists front u v back, x :: (between ++ [y]) = front ++ u :: v :: back ∧ u.Trades v i := by
  constructor
  · exact prunedForGood_of_trigger hp
  · intro before x between y later i hsplit hplace hout hback
    exact trades_of_prepared hp hsplit hplace hout hback

theorem alternating_returns_in_trade :
    (forall q, .prepare q ∈ alternating -> q = cramped) ∧ (alternation 3).carries 0 = false ∧
      (alternation 4).carries 0 = true ∧ exists front u v back,
        [alternation 3, alternation 4] = front ++ u :: v :: back ∧ u.Trades v 0 := by
  refine ⟨alternating_cramped, alternation_three_carries, alternation_four_carries, ?_⟩
  exact (pruned_returns_in_trade cramped alternating alternating_cramped).right _ _ _ _ _ _
    prepared_alternating (by decide +kernel) alternation_three_carries alternation_four_carries

end Transcript
end Colloquy
