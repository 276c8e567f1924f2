import Colloquy.Proofs.Transcript.Budget
import Mathlib.Data.Prod.Lex
import Mathlib.Order.Bounds.Basic

/-!
# What a policy leaves out

The expired entries stand in one order.  A policy leaves out a start of it: nothing, all of it,
or the shortest start without which the rest is within the budget.
-/

namespace Colloquy
namespace Pruning

namespace Placed

/-- What decides when an entry is left out: the turns that remain, the importance and the
place. -/
def key (tie : TieBreak) (e : Placed) : Int ×ₗ Nat ×ₗ Int :=
  toLex (overdue e, toLex (e.1.message.importance.rank, seat tie e))

theorem goesBefore_iff_key_le {tie : TieBreak} {a b : Placed} :
    goesBefore tie a b = true <-> a.key tie <= b.key tie := by
  rw [goesBefore_iff, key, key, Prod.Lex.toLex_le_toLex, Prod.Lex.toLex_le_toLex]

end Placed

structure IsOrderOfExpired (tie : TieBreak) (t : Transcript) (l : List Placed) : Prop where
  expired : forall e i, (e, i) ∈ l <-> t[i]? = some e ∧ e.isExpired = true
  ordered : l.Pairwise fun a b => a.key tie < b.key tie

theorem isOrderOfExpired_candidates {tie : TieBreak} {t : Transcript} :
    IsOrderOfExpired tie t (candidates tie t) where
  expired _ _ := mem_candidates_iff
  ordered := by
    refine (candidates_pairwise.and candidates_nodup).imp_of_mem ?_
    rintro a b ha hb ⟨hbefore, hne⟩
    refine lt_of_le_not_ge (Placed.goesBefore_iff_key_le.mp hbefore) fun hback => ?_
    exact hne (candidate_ext ha hb
      (Placed.eq_of_goesBefore hbefore (Placed.goesBefore_iff_key_le.mpr hback)))

theorem candidates_eq_of_perm {tie : TieBreak} {t : Transcript} {l : List Placed}
    (hperm : l.Perm (t.zipIdx.filter fun e => e.1.isExpired))
    (hordered : l.Pairwise fun a b => Placed.goesBefore tie a b = true) : candidates tie t = l := by
  have hsame : (candidates tie t).Perm l := (List.mergeSort_perm _ _).trans hperm.symm
  refine hsame.eq_of_pairwise ?_ candidates_pairwise hordered
  intro a b ha hb hbefore hback
  exact candidate_ext ha (hsame.mem_iff.mpr hb) (Placed.eq_of_goesBefore hbefore hback)

/-!
# Tokens that stay

What a start of the candidates takes away and what stays add up to the whole.
-/

def keptTokens (t : Transcript) (gone : List Placed) : Nat :=
  sumTokens (t.zipIdx.filter fun e => e ∉ gone)

section

variable {t : Transcript} {tie : TieBreak} {l gone front back : List Placed} {e : Placed}

theorem sumTokens_append : sumTokens (front ++ back) = sumTokens front + sumTokens back := by
  rw [sumTokens, List.map_append, List.sum_append]
  rfl

theorem sumTokens_eq_of_perm (h : front.Perm back) : sumTokens front = sumTokens back :=
  (h.map fun e : Placed => e.1.tokens).sum_nat

theorem sumTokens_zipIdx : sumTokens t.zipIdx = totalTokens t := by
  have hfirst : t.zipIdx.map (fun e => e.1.tokens) = t.map Entry.tokens := by
    rw [← List.zipIdx_map_fst 0 t, List.map_map]
    simp
  rw [sumTokens, hfirst, totalTokens, List.sum_eq_foldr, List.foldr_map]

theorem sumTokens_add_keptTokens (hnodup : gone.Nodup) (hsub : gone ⊆ t.zipIdx) :
    sumTokens gone + keptTokens t gone = totalTokens t := by
  have hplaces : t.zipIdx.Nodup := by
    apply List.Nodup.of_map Prod.snd
    rw [List.zipIdx_map_snd]
    exact List.nodup_range'
  have hgone : gone.Perm (t.zipIdx.filter fun e => e ∈ gone) := by
    rw [List.perm_ext_iff_of_nodup hnodup (hplaces.filter _)]
    intro e
    rw [List.mem_filter, decide_eq_true_eq]
    exact ⟨fun he => ⟨hsub he, he⟩, fun he => he.right⟩
  have hsplit : (t.zipIdx.filter (fun e => e ∈ gone) ++
      t.zipIdx.filter (fun e => e ∉ gone)).Perm t.zipIdx := by
    simpa only [decide_not] using List.filter_append_perm (fun e => decide (e ∈ gone)) t.zipIdx
  rw [keptTokens, ← sumTokens_zipIdx, sumTokens_eq_of_perm hgone, ← sumTokens_append]
  exact sumTokens_eq_of_perm hsplit

namespace IsOrderOfExpired

theorem nodup (h : IsOrderOfExpired tie t l) : l.Nodup :=
  h.ordered.imp fun hlt heq => (heq ▸ hlt).false

theorem subset (h : IsOrderOfExpired tie t l) : l ⊆ t.zipIdx := by
  rintro ⟨e, i⟩ he
  exact List.mem_zipIdx_iff_getElem?.mpr ((h.expired e i).mp he).left

theorem sumTokens_take (h : IsOrderOfExpired tie t l) (n : Nat) :
    sumTokens (l.take n) + keptTokens t (l.take n) = totalTokens t :=
  sumTokens_add_keptTokens (h.nodup.sublist (List.take_sublist n l))
    fun _ he => h.subset (List.mem_of_mem_take he)

theorem keptTokens_take (h : IsOrderOfExpired tie t l) {n : Nat} (hn : l[n]? = some e) :
    keptTokens t (l.take n) = e.1.tokens + keptTokens t (l.take (n + 1)) := by
  have hbefore := h.sumTokens_take n
  have hafter := h.sumTokens_take (n + 1)
  rw [List.take_add_one, hn, Option.toList_some, sumTokens_append] at hafter
  have hone : sumTokens [e] = e.1.tokens := rfl
  rw [List.take_add_one, hn, Option.toList_some]
  omega

end IsOrderOfExpired

end

namespace Policy

variable {p : Policy} {t : Transcript}

theorem dropped_eq_take : p.dropped t = (candidates p.tieBreak t).take (p.dropped t).length :=
  List.prefix_iff_eq_take.mp dropped_prefix

theorem select_eq_map : p.select t = t.zipIdx.map fun e => decide (e ∉ p.dropped t) := by
  apply List.ext_getElem?
  intro i
  rw [List.getElem?_map, List.getElem?_zipIdx]
  cases h : t[i]? with
  | none =>
      apply List.getElem?_eq_none
      rw [length_select]
      exact List.getElem?_eq_none_iff.mp h
  | some e =>
      have hi : i < (p.select t).length := by
        rw [length_select]
        exact (List.getElem?_eq_some_iff.mp h).choose
      have hkeeps : p.keeps t i = (p.select t)[i] := by
        rw [keeps, List.getElem?_eq_getElem hi]
        rfl
      rw [List.getElem?_eq_getElem hi, ← hkeeps]
      simp only [Option.map_some, Nat.zero_add, Option.some.injEq]
      rw [Bool.eq_iff_iff, decide_eq_true_eq, ← keeps_eq_false_iff h, Bool.not_eq_false]

/-- Under a budget, as few entries are left out as bring the rest within it, or all if it cannot
be met. -/
theorem isLeast_length_dropped (hp : p.trigger = .tokenBudget) :
    IsLeast {n | keptTokens t ((candidates p.tieBreak t).take n) <= p.maxTokens}
        (p.dropped t).length ∨
      (p.dropped t).length = (candidates p.tieBreak t).length ∧
        forall n, p.maxTokens < keptTokens t ((candidates p.tieBreak t).take n) := by
  have horder : IsOrderOfExpired p.tieBreak t (candidates p.tieBreak t) :=
    isOrderOfExpired_candidates
  have hsum := horder.sumTokens_take
  -- A start of the order that suffices is at least as long as what is left out.
  have hleast : forall n, keptTokens t ((candidates p.tieBreak t).take n) <= p.maxTokens ->
      p.dropped t <+: (candidates p.tieBreak t).take n := by
    intro n hn
    have hwithin : totalTokens t - sumTokens ((candidates p.tieBreak t).take n) <=
        p.maxTokens := by
      have := hsum n
      omega
    have hprefix := overBudget_prefix_of_le
      (b := (candidates p.tieBreak t).drop n) hwithin
    rw [List.take_append_drop] at hprefix
    rw [dropped_eq hp]
    exact hprefix
  by_cases hfits : keptTokens t (p.dropped t) <= p.maxTokens
  · refine Or.inl ⟨?_, fun n hn => ?_⟩
    · show keptTokens t _ <= p.maxTokens
      rw [← dropped_eq_take]
      exact hfits
    · have hlength := (hleast n hn).length_le
      rw [List.length_take] at hlength
      omega
  · have hall : p.dropped t = candidates p.tieBreak t := by
      by_contra hne
      rw [dropped_eq hp] at hne hfits
      have hbudget := overBudget_fits hne
      have htotal := hsum (p.dropped t).length
      rw [← dropped_eq_take, dropped_eq hp] at htotal
      omega
    refine Or.inr ⟨congrArg List.length hall, fun n => ?_⟩
    by_contra hn
    have hprefix := hleast n (Nat.le_of_not_lt hn)
    rw [hall] at hprefix hfits
    have hsame : (candidates p.tieBreak t).take n = candidates p.tieBreak t :=
      ((List.take_prefix n _).eq_of_length_le hprefix.length_le)
    rw [hsame] at hn
    exact hfits (Nat.le_of_not_lt hn)

/-- What a policy leaves out of a context: there is one flag for each entry, and only expired
entries are left out.  Without pruning these are none, and with pruning at all times they are
all.  Under a budget they are the first in the order of keys (first by the turns that remain, then
by importance, then by place), and no more than it takes to bring the tokens of the rest within
the budget; all, if that cannot be.  What is left out one by one takes its tokens away from those
that are left, so these never come to less than nothing. -/
theorem select_leaves_out_least_start (p : Policy) (t : Transcript) :
    (p.select t).length = t.length ∧
      (forall (i : Nat) (e : Entry), t[i]? = some e -> (p.select t)[i]? = some false ->
        e.isExpired = true) ∧
      exists (expired : List Placed) (k : Nat), IsOrderOfExpired p.tieBreak t expired ∧
        (p.select t = t.zipIdx.map fun e => decide (e ∉ expired.take k)) ∧
        (p.trigger = .never -> k = 0) ∧
        (p.trigger = .always -> k = expired.length) ∧
        (p.trigger = .tokenBudget ->
          IsLeast {n | keptTokens t (expired.take n) <= p.maxTokens} k ∨
            k = expired.length ∧ forall n, p.maxTokens < keptTokens t (expired.take n)) ∧
        forall (n : Nat) (e : Placed), expired[n]? = some e ->
          sumTokens (expired.take n) + keptTokens t (expired.take n) = totalTokens t ∧
            keptTokens t (expired.take n) = e.1.tokens + keptTokens t (expired.take (n + 1)) := by
  have horder : IsOrderOfExpired p.tieBreak t (candidates p.tieBreak t) :=
    isOrderOfExpired_candidates
  refine ⟨length_select, ?_, candidates p.tieBreak t, (p.dropped t).length, horder, ?_, ?_, ?_,
    isLeast_length_dropped, ?_⟩
  · intro i e he hout
    have hkeeps : p.keeps t i = false := by
      rw [keeps, hout]
      rfl
    exact (mem_candidates_iff.mp (dropped_subset ((keeps_eq_false_iff he).mp hkeeps))).right
  · rw [← dropped_eq_take]
    exact select_eq_map
  · intro hp
    rw [dropped, hp]
    rfl
  · intro hp
    rw [dropped, hp]
  · intro n e hn
    exact ⟨horder.sumTokens_take n, horder.keptTokens_take hn⟩

theorem select_eq_of_perm {p : Policy} {t : Transcript} {l : List Placed}
    (hp : p.trigger = .tokenBudget) (hperm : l.Perm (t.zipIdx.filter fun e => e.1.isExpired))
    (hordered : l.Pairwise fun a b => Placed.goesBefore p.tieBreak a b = true) :
    p.select t = (List.range t.length).map fun i =>
      !((overBudget p.maxTokens (totalTokens t) l).map Prod.snd).contains i := by
  rw [select, dropped_eq hp, candidates_eq_of_perm hperm hordered]

def crowded : Transcript :=
  [⟨{ role := .user, text := "one", importance := .medium, ttl := some 0 }, 1⟩,
    ⟨{ role := .user, text := "two", importance := .low, ttl := some 0 }, 1⟩,
    ⟨{ role := .user, text := "six", importance := .low, ttl := some 0 }, 1⟩]

def narrow : Policy :=
  { trigger := .tokenBudget, maxTokens := 2, tieBreak := .newestFirst }

/-- One message is too many, and it is the newest of those that matter least. -/
theorem crowded_leaves_out_newest : narrow.select crowded = [true, true, false] ∧
    exists (expired : List Placed) (k : Nat), IsOrderOfExpired .newestFirst crowded expired ∧
      (crowded.zipIdx.map fun e => decide (e ∉ expired.take k)) = [true, true, false] ∧
      (IsLeast {n | keptTokens crowded (expired.take n) <= 2} k ∨
        k = expired.length ∧ forall n, 2 < keptTokens crowded (expired.take n)) := by
  have hselect : narrow.select crowded = [true, true, false] := by
    rw [select_eq_of_perm (l := [(crowded[2], 2), (crowded[1], 1), (crowded[0], 0)]) rfl
      (by decide +kernel) (by decide +kernel)]
    decide +kernel
  rcases select_leaves_out_least_start narrow crowded with
    ⟨_, _, expired, k, horder, hflags, _, _, hbudget, _⟩
  exact ⟨hselect, expired, k, horder, hflags.symm.trans hselect, hbudget rfl⟩

end Policy
end Pruning
end Colloquy
