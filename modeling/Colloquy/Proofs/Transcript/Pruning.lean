import Colloquy.Transcript.Pruning

/-!
# What a policy keeps

A policy leaves out some of the expired entries and keeps all others.  What it keeps goes
into the context in the order of the transcript, and is counted as carried.
-/

namespace Colloquy
namespace Pruning

section

variable {tie : TieBreak} {t : Transcript} {e : Entry} {i : Nat}

theorem mem_candidates_iff : (e, i) ∈ candidates tie t <-> t[i]? = some e ∧ e.isExpired = true := by
  rw [candidates, List.mem_mergeSort, List.mem_filter, List.mem_zipIdx_iff_getElem?]

theorem overBudget_prefix {budget total : Nat} {l : List Placed} :
    overBudget budget total l <+: l := by
  induction l generalizing total with
  | nil => exact List.prefix_rfl
  | cons e l ih =>
      rw [overBudget]
      split
      · exact List.nil_prefix
      · exact (List.prefix_cons_inj e).mpr ih

end

namespace Policy

def keeps (p : Policy) (t : Transcript) (i : Nat) : Bool :=
  (p.select t)[i]?.getD false

section

variable {p : Policy} {t : Transcript} {e : Entry} {i : Nat}

theorem dropped_prefix : p.dropped t <+: candidates p.tieBreak t := by
  unfold dropped
  split
  · exact List.nil_prefix
  · exact List.prefix_rfl
  · exact overBudget_prefix

theorem dropped_subset : p.dropped t ⊆ candidates p.tieBreak t :=
  dropped_prefix.subset

theorem length_select : (p.select t).length = t.length := by
  rw [select, List.length_map, List.length_range]

theorem keeps_of_lt (h : i < t.length) :
    p.keeps t i = !((p.dropped t).map Prod.snd).contains i := by
  rw [keeps, select, List.getElem?_map, List.getElem?_range h]
  rfl

theorem keeps_eq_false_iff (h : t[i]? = some e) :
    p.keeps t i = false <-> (e, i) ∈ p.dropped t := by
  rw [keeps_of_lt (List.getElem?_eq_some_iff.mp h).choose, Bool.not_eq_false',
    List.contains_iff_mem, List.mem_map]
  constructor
  · rintro ⟨⟨e', i'⟩, hdropped, rfl⟩
    have hsame := (mem_candidates_iff.mp (dropped_subset hdropped)).left
    rw [h] at hsame
    cases hsame
    exact hdropped
  · intro hdropped
    exact ⟨(e, i), hdropped, rfl⟩

theorem keeps_of_not_expired (h : t[i]? = some e) (he : e.isExpired = false) :
    p.keeps t i = true := by
  rw [← Bool.not_eq_false, keeps_eq_false_iff h]
  intro hdropped
  rw [(mem_candidates_iff.mp (dropped_subset hdropped)).right] at he
  cases he

theorem keeps_eq_of_always (halways : p.trigger = .always) (h : t[i]? = some e) :
    p.keeps t i = !e.isExpired := by
  have hdropped : p.dropped t = candidates p.tieBreak t := by
    rw [dropped, halways]
  cases he : e.isExpired with
  | true => exact (keeps_eq_false_iff h).mpr (hdropped ▸ mem_candidates_iff.mpr ⟨h, he⟩)
  | false => exact keeps_of_not_expired h he

end

end Policy
end Pruning

/-!
# Contexts
-/

namespace Transcript

open Pruning (Policy)

variable {p : Policy} {t : Transcript}

theorem context_eq : context p t =
    (t.zipIdx.filter fun e => p.keeps t e.2).map fun e => e.1.message := by
  have hzip : t.zip (p.select t) = t.zipIdx.map fun e => (e.1, p.keeps t e.2) := by
    apply List.ext_getElem
    · simp [Policy.length_select]
    · intro i hi _
      have hflag : i < (p.select t).length := by
        rw [List.length_zip] at hi
        omega
      simp [Policy.keeps, List.getElem?_eq_getElem hflag]
  rw [context, hzip, List.filter_map, List.map_map]
  rfl

theorem context_sublist : (context p t).Sublist (messages t) := by
  have hmessages : messages t = t.zipIdx.map fun e => e.1.message := by
    rw [messages, ← List.zipIdx_map_fst 0 t, List.map_map]
    simp
  rw [context_eq, hmessages]
  exact List.filter_sublist.map _

theorem getElem?_afterRequest {i : Nat} : (afterRequest p t)[i]? =
    t[i]?.map fun e => if p.keeps t i then e.carried else e := by
  rw [afterRequest, List.getElem?_zipWith]
  cases h : t[i]? with
  | none => rfl
  | some e =>
      have hflag : i < (p.select t).length := by
        rw [Policy.length_select]
        exact (List.getElem?_eq_some_iff.mp h).choose
      simp [Policy.keeps, List.getElem?_eq_getElem hflag]

theorem length_afterRequest : (afterRequest p t).length = t.length := by
  rw [afterRequest, List.length_zipWith, Policy.length_select, Nat.min_self]

theorem messages_afterRequest : messages (afterRequest p t) = messages t := by
  apply List.ext_getElem?
  intro i
  rw [messages, messages, List.getElem?_map, List.getElem?_map, getElem?_afterRequest,
    Option.map_map]
  congr 1
  funext e
  show (if p.keeps t i then e.carried else e).message = e.message
  split
  · rfl
  · rfl

theorem messages_push {m : Message} : messages (t.push m) = messages t ++ [m] := by
  rw [push, messages, List.map_append]
  rfl

end Transcript
end Colloquy
