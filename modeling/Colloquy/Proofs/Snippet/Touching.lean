import Colloquy.Proofs.Text.Slice
import Colloquy.Snippet.Merge

/-!
# Touching slices

Two slices of one text that touch are joined into one slice, which covers what they
cover and touches what they touch.
-/

namespace Colloquy
namespace Snippet

open Text (byteLength slice? slice?_eq_some_iff dropBytes?_eq_some_iff prefix_of_byteLength_le)

/-- The text of the snippet is the slice of a document at its bytes. -/
def IsSliceOf (cs : List Char) (s : Snippet) : Prop :=
  slice? cs s.start s.stop = some s.text.toList

def Covers (s : Snippet) (source : String) (byte : Nat) : Prop :=
  s.source = source ∧ s.start <= byte ∧ byte < s.stop

variable {a b s x : Snippet} {cs : List Char}

theorem start_le_stop : s.start <= s.stop :=
  Nat.le_add_right _ _

theorem touches_iff :
    a.touches b = true <-> a.source = b.source ∧ a.start <= b.stop ∧ b.start <= a.stop := by
  simp [touches, and_assoc]

theorem touches_self : s.touches s = true :=
  touches_iff.mpr ⟨rfl, start_le_stop, start_le_stop⟩

theorem touches_comm : a.touches b = true <-> b.touches a = true := by
  rw [touches_iff, touches_iff]
  constructor
  · rintro ⟨hsource, hle, hge⟩
    exact ⟨hsource.symm, hge, hle⟩
  · rintro ⟨hsource, hle, hge⟩
    exact ⟨hsource.symm, hge, hle⟩

theorem isSliceOf_iff : s.IsSliceOf cs <->
    exists front back, cs = front ++ (s.text.toList ++ back) ∧ byteLength front = s.start := by
  rw [IsSliceOf, slice?_eq_some_iff]
  constructor
  · rintro ⟨front, back, hcs, hfront, _⟩
    exact ⟨front, back, hcs, hfront⟩
  · rintro ⟨front, back, hcs, hfront⟩
    exact ⟨front, back, hcs, hfront, (Nat.add_sub_cancel_left s.start _).symm⟩

theorem stop_le_of_isSliceOf (h : s.IsSliceOf cs) : s.stop <= byteLength cs := by
  rcases isSliceOf_iff.mp h with ⟨front, back, hcs, hfront⟩
  rw [hcs, Text.byteLength_append, Text.byteLength_append, hfront, stop]
  omega

theorem joinedText_of_isSliceOf (ha : a.IsSliceOf cs) (hb : b.IsSliceOf cs)
    (htouch : b.start <= a.stop) :
    byteLength (joinedText a b) = max a.stop b.stop - a.start ∧
      exists front back, cs = front ++ (joinedText a b ++ back) ∧ byteLength front = a.start := by
  rcases isSliceOf_iff.mp ha with ⟨frontA, backA, hcsA, hfrontA⟩
  rcases isSliceOf_iff.mp hb with ⟨frontB, backB, hcsB, hfrontB⟩
  have hstopA : byteLength (frontA ++ a.text.toList) = a.stop := by
    rw [Text.byteLength_append, hfrontA, stop]
  have hstopB : byteLength (frontB ++ b.text.toList) = b.stop := by
    rw [Text.byteLength_append, hfrontB, stop]
  unfold joinedText
  split
  · rename_i hle
    rw [Nat.max_eq_left hle]
    exact ⟨(Nat.add_sub_cancel_left a.start _).symm, frontA, backA, hcsA, hfrontA⟩
  · rename_i hlt
    -- Both what stands before `b` and all that `a` reaches begin what `b` reaches.
    have hprefixA : frontA ++ a.text.toList <+: cs := ⟨backA, by rw [hcsA, List.append_assoc]⟩
    have hprefixB : frontB ++ b.text.toList <+: cs := ⟨backB, by rw [hcsB, List.append_assoc]⟩
    rcases prefix_of_byteLength_le ⟨_, hcsB.symm⟩ hprefixA (by omega) with ⟨shared, hshared⟩
    rcases prefix_of_byteLength_le hprefixA hprefixB (by omega) with ⟨rest, hrest⟩
    have htext : b.text.toList = shared ++ rest := by
      rw [← hshared, List.append_assoc] at hrest
      exact (List.append_cancel_left hrest).symm
    have hlength : byteLength shared = a.stop - b.start := by
      rw [← hshared, Text.byteLength_append] at hstopA
      omega
    rw [dropBytes?_eq_some_iff.mpr ⟨shared, htext, hlength⟩, Option.getD_some,
      Text.byteLength_append]
    constructor
    · rw [← hrest, Text.byteLength_append, hstopA] at hstopB
      rw [Text.byteLength_append, hfrontA] at hstopA
      omega
    · refine ⟨frontA, backB, ?_, hfrontA⟩
      rw [hcsB, ← List.append_assoc, ← hrest, List.append_assoc, List.append_assoc,
        List.append_assoc]

/-!
# Joining
-/

theorem join_source (h : a.touches b = true) : (join a b).source = a.source := by
  rcases touches_iff.mp h with ⟨hsource, _, _⟩
  unfold join
  split
  · rfl
  · exact hsource.symm

theorem join_start : (join a b).start = min a.start b.start := by
  unfold join
  split
  · rename_i hle
    exact (Nat.min_eq_left hle).symm
  · rename_i hlt
    exact (Nat.min_eq_right (Nat.le_of_not_le hlt)).symm

theorem join_firstPage : (join a b).firstPage = min a.firstPage b.firstPage := by
  unfold join
  split
  · rfl
  · exact Nat.min_comm b.firstPage a.firstPage

theorem join_lastPage : (join a b).lastPage = max a.lastPage b.lastPage := by
  unfold join
  split
  · rfl
  · exact Nat.max_comm b.lastPage a.lastPage

theorem join_of_isSliceOf (ha : a.IsSliceOf cs) (hb : b.IsSliceOf cs) (h : a.touches b = true) :
    (join a b).stop = max a.stop b.stop ∧ (join a b).IsSliceOf cs := by
  rcases touches_iff.mp h with ⟨_, hle, hge⟩
  rw [isSliceOf_iff, stop, join_start]
  unfold join
  split
  · rename_i hstart
    rcases joinedText_of_isSliceOf ha hb hge with ⟨hlength, hslice⟩
    rw [String.toList_ofList, hlength, Nat.min_eq_left hstart]
    have hstop := a.start_le_stop
    exact ⟨by omega, hslice⟩
  · rename_i hlt
    have hstart := Nat.le_of_not_le hlt
    rcases joinedText_of_isSliceOf hb ha hle with ⟨hlength, hslice⟩
    rw [String.toList_ofList, hlength, Nat.min_eq_right hstart]
    have hstop := b.start_le_stop
    exact ⟨by omega, hslice⟩

/-- Touching intervals leave no gap, so what touches their union touches one of them. -/
theorem touches_join_iff (ha : a.IsSliceOf cs) (hb : b.IsSliceOf cs) (h : a.touches b = true) :
    x.touches (join a b) = true <-> x.touches a = true ∨ x.touches b = true := by
  rcases touches_iff.mp h with ⟨hsource, hle, hge⟩
  have hx := x.start_le_stop
  rw [touches_iff, touches_iff, touches_iff, join_source h, join_start,
    (join_of_isSliceOf ha hb h).left, ← hsource, ← and_or_left]
  refine and_congr_right fun _ => ?_
  omega

theorem covers_join_iff (ha : a.IsSliceOf cs) (hb : b.IsSliceOf cs) (h : a.touches b = true)
    {source : String} {byte : Nat} :
    (join a b).Covers source byte <-> a.Covers source byte ∨ b.Covers source byte := by
  rcases touches_iff.mp h with ⟨hsource, hle, hge⟩
  rw [Covers, Covers, Covers, join_source h, join_start, (join_of_isSliceOf ha hb h).left,
    ← hsource, ← and_or_left]
  refine and_congr_right fun _ => ?_
  omega

end Snippet
end Colloquy
