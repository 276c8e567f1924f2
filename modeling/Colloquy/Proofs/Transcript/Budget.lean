import Colloquy.Proofs.Transcript.Pruning
import Mathlib.Algebra.Order.BigOperators.Group.List
import Mathlib.Algebra.Order.Ring.Nat
import Mathlib.Data.List.Nodup
import Mathlib.Data.List.Perm.Subperm

/-!
# Pruning under a budget

The expired entries are left out in a total order.  Those that go are a start of all, no
longer than it takes to bring the rest within the budget.
-/

namespace Colloquy
namespace Pruning

namespace Placed

/-- The place that decides among entries equally overdue and equally important. -/
def seat (tie : TieBreak) (e : Placed) : Int :=
  match tie with
  | .oldestFirst => e.2
  | .newestFirst => -e.2

variable {tie : TieBreak} {a b c : Placed}

theorem rank_injective {i j : Importance} (h : i.rank = j.rank) : i = j := by
  cases i <;> cases j <;> first | rfl | cases h

theorem goesBefore_iff : goesBefore tie a b = true <->
    overdue a < overdue b ∨ overdue a = overdue b ∧
      (a.1.message.importance.rank < b.1.message.importance.rank ∨
        a.1.message.importance.rank = b.1.message.importance.rank ∧ seat tie a <= seat tie b) := by
  unfold goesBefore
  split
  · rename_i hoverdue
    have hne : overdue a ≠ overdue b := by simpa using hoverdue
    simp [hne]
  · rename_i hoverdue
    have heq : overdue a = overdue b := by simpa using hoverdue
    split
    · rename_i himportance
      have hne : a.1.message.importance.rank ≠ b.1.message.importance.rank := by
        intro h
        simp [rank_injective h] at himportance
      simp [heq, hne]
    · rename_i himportance
      have hsame : a.1.message.importance = b.1.message.importance := by simpa using himportance
      cases tie with
      | oldestFirst => simp [heq, hsame, seat]
      | newestFirst => simp [heq, hsame, seat]

theorem goesBefore_trans (hab : goesBefore tie a b = true) (hbc : goesBefore tie b c = true) :
    goesBefore tie a c = true := by
  rw [goesBefore_iff] at *
  omega

theorem goesBefore_total (a b : Placed) : (goesBefore tie a b || goesBefore tie b a) = true := by
  rw [Bool.or_eq_true, goesBefore_iff, goesBefore_iff]
  omega

theorem eq_of_goesBefore (hab : goesBefore tie a b = true) (hba : goesBefore tie b a = true) :
    a.2 = b.2 := by
  rw [goesBefore_iff] at *
  have hseat : seat tie a = seat tie b := by omega
  cases tie with
  | oldestFirst => exact Int.ofNat.inj hseat
  | newestFirst => exact Int.ofNat.inj (Int.neg_inj.mp hseat)

end Placed

/-!
# Candidates

The order of the candidates is total, so they stand in one order only.
-/

section

variable {tie : TieBreak} {t : Transcript} {a b : Placed} {front back : List Placed}

theorem candidates_pairwise :
    (candidates tie t).Pairwise fun a b => Placed.goesBefore tie a b = true := by
  have htrans : forall a b c : Placed, Placed.goesBefore tie a b = true ->
      Placed.goesBefore tie b c = true -> Placed.goesBefore tie a c = true :=
    fun _ _ _ => Placed.goesBefore_trans
  exact List.pairwise_mergeSort htrans Placed.goesBefore_total _

theorem candidates_nodup : (candidates tie t).Nodup := by
  rw [candidates, (List.mergeSort_perm _ _).nodup_iff]
  apply List.Pairwise.filter
  apply List.Nodup.of_map Prod.snd
  rw [List.zipIdx_map_snd]
  exact List.nodup_range'

theorem candidate_ext (ha : a ∈ candidates tie t) (hb : b ∈ candidates tie t) (h : a.2 = b.2) :
    a = b := by
  rcases a with ⟨e, i⟩
  rcases b with ⟨e', i'⟩
  cases h
  have he := (mem_candidates_iff.mp ha).left
  rw [(mem_candidates_iff.mp hb).left] at he
  cases he
  rfl

/-- The candidates that go before one of them, and are not it, stand in front of it. -/
theorem mem_front_of_goesBefore (hsplit : candidates tie t = front ++ b :: back)
    (ha : a ∈ candidates tie t) (hab : Placed.goesBefore tie a b = true) (hne : a ≠ b) :
    a ∈ front := by
  have hb : b ∈ candidates tie t := hsplit ▸ List.mem_append_right front List.mem_cons_self
  have hwhere : a ∈ front ++ b :: back := hsplit ▸ ha
  rcases List.mem_append.mp hwhere with hfront | hrest
  · exact hfront
  · rcases List.mem_cons.mp hrest with heq | hback
    · exact (hne heq).elim
    · have hordered : (b :: back).Pairwise fun a b => Placed.goesBefore tie a b = true :=
        (List.pairwise_append.mp (hsplit ▸ candidates_pairwise)).right.left
      have hba := (List.pairwise_cons.mp hordered).left a hback
      exact (hne (candidate_ext ha hb (Placed.eq_of_goesBefore hab hba))).elim

end

/-!
# The budget

Candidates are dropped from the front until the rest fits.  So the rest fits if a candidate is
kept, and did not fit before one was dropped.
-/

def sumTokens (l : List Placed) : Nat :=
  (l.map fun e => e.1.tokens).sum

section

variable {budget total : Nat} {l a b : List Placed} {e : Placed}

@[simp] theorem sumTokens_cons : sumTokens (e :: l) = e.1.tokens + sumTokens l :=
  rfl

theorem sumTokens_le_of_subset (ha : a.Nodup) (hab : a ⊆ b) : sumTokens a <= sumTokens b := by
  rcases ha.subperm hab with ⟨c, hperm, hsub⟩
  rw [sumTokens, ← (hperm.map fun e => e.1.tokens).sum_nat]
  exact (hsub.map _).sum_le_sum fun _ _ => Nat.zero_le _

theorem overBudget_prefix_of_le (h : total - sumTokens a <= budget) :
    overBudget budget total (a ++ b) <+: a := by
  induction a generalizing total with
  | nil =>
      cases b with
      | nil => exact List.prefix_rfl
      | cons e b =>
          have hwithin : total <= budget := h
          have hnone : overBudget budget total (e :: b) = [] := if_pos hwithin
          exact List.prefix_nil.mpr hnone
  | cons e a ih =>
      rw [sumTokens_cons, ← Nat.sub_sub] at h
      rw [List.cons_append, overBudget]
      split
      · exact List.nil_prefix
      · exact (List.prefix_cons_inj e).mpr (ih h)

theorem overBudget_fits (h : overBudget budget total l ≠ l) :
    total - sumTokens (overBudget budget total l) <= budget := by
  induction l generalizing total with
  | nil => exact (h rfl).elim
  | cons e l ih =>
      rw [overBudget] at h ⊢
      split
      · rename_i hwithin
        exact hwithin
      · rename_i hover
        rw [if_neg hover] at h
        rw [sumTokens_cons, ← Nat.sub_sub]
        exact ih fun heq => h (congrArg (e :: ·) heq)

end

theorem totalTokens_eq {t : Transcript} :
    totalTokens t = (t.messages.map fun m => estimateTokens m.text).sum := by
  induction t with
  | nil => rfl
  | cons e t ih => exact congrArg (e.tokens + ·) ih

namespace Policy

section

variable {p : Policy} {t : Transcript} {e : Entry} {i : Nat}

theorem dropped_eq (h : p.trigger = .tokenBudget) : p.dropped t =
    overBudget p.maxTokens (totalTokens t) (candidates p.tieBreak t) := by
  rw [dropped, h]

theorem goesBefore_of_keeps {a : Placed} (ha : a ∈ p.dropped t) (h : t[i]? = some e)
    (he : e.isExpired = true) (hkept : p.keeps t i = true) :
    Placed.goesBefore p.tieBreak a (e, i) = true := by
  have hout : (e, i) ∉ p.dropped t := by
    rw [← keeps_eq_false_iff h, hkept]
    exact Bool.noConfusion
  rcases dropped_prefix (p := p) (t := t) with ⟨stay, hsplit⟩
  have hstay : (e, i) ∈ stay := by
    have hcandidate : (e, i) ∈ p.dropped t ++ stay := hsplit ▸ mem_candidates_iff.mpr ⟨h, he⟩
    exact (List.mem_append.mp hcandidate).resolve_left hout
  exact (List.pairwise_append.mp (hsplit ▸ candidates_pairwise)).right.right a ha (e, i) hstay

theorem fits_of_keeps (hp : p.trigger = .tokenBudget) (h : t[i]? = some e)
    (he : e.isExpired = true) (hkept : p.keeps t i = true) :
    totalTokens t - sumTokens (p.dropped t) <= p.maxTokens := by
  have hall : overBudget p.maxTokens (totalTokens t) (candidates p.tieBreak t) ≠
      candidates p.tieBreak t := by
    intro hall
    have hdropped : (e, i) ∈ p.dropped t := by
      rw [dropped_eq hp, hall]
      exact mem_candidates_iff.mpr ⟨h, he⟩
    rw [(keeps_eq_false_iff h).mpr hdropped] at hkept
    cases hkept
  rw [dropped_eq hp]
  exact overBudget_fits hall

theorem exceeds_of_dropped {front back : List Placed} (hp : p.trigger = .tokenBudget)
    (hsplit : candidates p.tieBreak t = front ++ (e, i) :: back) (hdropped : (e, i) ∈ p.dropped t) :
    p.maxTokens < totalTokens t - sumTokens front := by
  by_contra hfits
  have hfront : p.dropped t <+: front := by
    rw [dropped_eq hp, hsplit]
    exact overBudget_prefix_of_le (Nat.le_of_not_lt hfits)
  have hnodup : (front ++ (e, i) :: back).Nodup := hsplit ▸ candidates_nodup
  exact (List.nodup_append.mp hnodup).right.right (e, i) (hfront.subset hdropped) (e, i)
    List.mem_cons_self rfl

end

end Policy
end Pruning
end Colloquy
