import Colloquy.Proofs.Snippet.Groups
import Mathlib.Algebra.BigOperators.Fin
import Mathlib.Algebra.Order.BigOperators.Group.Finset
import Mathlib.Data.List.Induction
import Mathlib.Data.List.Pairwise

/-!
# Merging of any snippets

Snippets that are not pieces of one text are merged where they touch.  Merging divides the positions
of a list among groups no two of which touch; the snippet of a group is joined from those of its
members, and what joining preserves holds of all that merging results in.
-/

namespace Colloquy
namespace Snippet

open Text (byteLength)

def Separate (A B : Set Nat) : Prop :=
  forall i, i ∈ A -> i ∉ B

/-- What comes of joining the snippets at some positions of a list.  Each join is of two snippets
that touch and were joined from different positions. -/
inductive JoinedFrom (l : List Snippet) : Set Nat -> Snippet -> Prop where
  | single {i : Nat} {s : Snippet} : l[i]? = some s -> JoinedFrom l {i} s
  | join {A B : Set Nat} {a b : Snippet} : JoinedFrom l A a -> JoinedFrom l B b -> Separate A B ->
      a.touches b = true -> JoinedFrom l (A ∪ B) (a.join b)

/-- The positions of a list are divided among groups, in the order of their ranks. -/
structure Division (l : List Snippet) (gs : List Group) : Prop where
  joined : forall g, g ∈ gs -> JoinedFrom l g.members g.snippet
  rank : forall g, g ∈ gs -> IsLeast g.members g.rank
  grouped : forall i, i < l.length -> exists g, g ∈ gs ∧ i ∈ g.members
  separate : gs.Pairwise fun g h => Separate g.members h.members
  ranks : (gs.map Group.rank).Pairwise (· < ·)

instance : Std.Symm fun g h : Group => Separate g.members h.members where
  symm _ _ hseparate i hi hi' := hseparate i hi' hi

def Clear (g h : Group) : Prop :=
  ¬ g.snippet.touches h.snippet = true

instance : Std.Symm Clear where
  symm _ _ hclear htouch := hclear (touches_comm.mp htouch)

def Apart (gs : List Group) : Prop :=
  gs.Pairwise Clear

/-!
# The first snippet that touches
-/

section

variable {l : List Snippet} {a b s : Snippet}

theorem touches_of_firstTouching? {x : Snippet} {before after : List Snippet}
    (hfirst : firstTouching? s l = some (before, x, after)) : x.touches s = true := by
  induction l generalizing before with
  | nil => cases hfirst
  | cons y rest ih =>
      unfold firstTouching? at hfirst
      split at hfirst
      · cases hfirst
        assumption
      · split at hfirst
        · rename_i hrest
          cases hfirst
          exact ih hrest
        · cases hfirst

theorem not_touches_of_firstTouching? (hfirst : firstTouching? s l = none) :
    forall x, x ∈ l -> ¬ x.touches s = true := by
  induction l with
  | nil =>
      intro x hx
      cases hx
  | cons y rest ih =>
      unfold firstTouching? at hfirst
      split at hfirst
      · cases hfirst
      · rename_i hy
        split at hfirst
        · cases hfirst
        · rename_i hrest
          exact List.forall_mem_cons.mpr ⟨hy, ih hrest⟩

theorem exists_group_of_firstTouching? {gs : List Group} {x : Snippet} {before after : List Snippet}
    (hfirst : firstTouching? s (gs.map Group.snippet) = some (before, x, after)) :
    exists front hit back, gs = front ++ hit :: back ∧ before = front.map Group.snippet ∧
      x = hit.snippet ∧ after = back.map Group.snippet ∧ hit.snippet.touches s = true := by
  rcases List.map_eq_append_iff.mp (firstTouching?_eq_append hfirst) with
    ⟨front, rest, hgs, hfront, hrest⟩
  rcases List.map_eq_cons_iff.mp hrest with ⟨hit, back, hrest, hhit, hback⟩
  refine ⟨front, hit, back, by rw [hgs, hrest], hfront.symm, hhit.symm, hback.symm, ?_⟩
  rw [hhit]
  exact touches_of_firstTouching? hfirst

end

/-!
# Joined snippets
-/

namespace JoinedFrom

variable {l : List Snippet} {A : Set Nat} {s : Snippet}

theorem lt_length (h : JoinedFrom l A s) {i : Nat} (hi : i ∈ A) : i < l.length := by
  induction h with
  | single hs =>
      rw [Set.mem_singleton_iff.mp hi]
      exact (List.getElem?_eq_some_iff.mp hs).choose
  | join _ _ _ _ iha ihb =>
      rcases hi with hi | hi
      · exact iha hi
      · exact ihb hi

theorem concat (h : JoinedFrom l A s) (x : Snippet) : JoinedFrom (l ++ [x]) A s := by
  induction h with
  | single hs =>
      refine JoinedFrom.single ?_
      rw [List.getElem?_append_left (List.getElem?_eq_some_iff.mp hs).choose, hs]
  | join _ _ hseparate htouch iha ihb => exact JoinedFrom.join iha ihb hseparate htouch

theorem of_all {p : Snippet -> Prop} (h : JoinedFrom l A s)
    (hjoin : forall a b, a.touches b = true -> p a -> p b -> p (a.join b))
    (hl : forall x, x ∈ l -> p x) : p s := by
  induction h with
  | single hs => exact hl _ (List.mem_of_getElem? hs)
  | join _ _ _ htouch iha ihb => exact hjoin _ _ htouch iha ihb

theorem exists_origin (h : JoinedFrom l A s) : exists i a, i ∈ A ∧ l[i]? = some a ∧
    s.source = a.source ∧ s.start = a.start := by
  induction h with
  | @single i s hs => exact ⟨i, s, rfl, hs, rfl, rfl⟩
  | @join A B a b _ _ _ htouch iha ihb =>
      rw [join_source htouch, join_start]
      by_cases hle : a.start <= b.start
      · rw [Nat.min_eq_left hle]
        rcases iha with ⟨i, x, hi, hx, hsource, hstart⟩
        exact ⟨i, x, Or.inl hi, hx, hsource, hstart⟩
      · rw [Nat.min_eq_right (Nat.le_of_not_le hle), (touches_iff.mp htouch).left]
        rcases ihb with ⟨i, x, hi, hx, hsource, hstart⟩
        exact ⟨i, x, Or.inr hi, hx, hsource, hstart⟩

end JoinedFrom

/-!
# Reach and length

The text of a join is no longer than the two texts together and reaches as far as both.  These
bounds hold of any texts, also of snippets that are no pieces of one.
-/

section

variable {a b : Snippet}

theorem le_byteLength_joinedText (h : b.start <= a.stop) :
    max a.stop b.stop <= a.start + Text.byteLength (joinedText a b) := by
  -- Of the second text no more is left out than the first is claimed to reach into it.
  have ha : a.stop = a.start + Text.byteLength a.text.toList := rfl
  have hb : b.stop = b.start + Text.byteLength b.text.toList := rfl
  unfold joinedText
  split
  · omega
  · rw [Text.byteLength_append]
    cases hdrop : Text.dropBytes? (a.stop - b.start) b.text.toList with
    | none =>
        rw [Option.getD_none]
        omega
    | some rest =>
        rcases Text.dropBytes?_eq_some_iff.mp hdrop with ⟨front, htext, hfront⟩
        rw [htext, Text.byteLength_append] at hb
        rw [Option.getD_some]
        omega

/-- The join reaches as far as both, whatever their texts are. -/
theorem le_stop_join (h : a.touches b = true) : max a.stop b.stop <= (join a b).stop := by
  rcases touches_iff.mp h with ⟨_, hle, hge⟩
  unfold join
  split
  · show _ <= a.start + Text.byteLength (String.ofList (joinedText a b)).toList
    rw [String.toList_ofList]
    exact le_byteLength_joinedText hge
  · show _ <= b.start + Text.byteLength (String.ofList (joinedText b a)).toList
    rw [String.toList_ofList, Nat.max_comm]
    exact le_byteLength_joinedText hle

end

def textLength (s : Snippet) : Nat :=
  byteLength s.text.toList

def totalLength (l : List Snippet) : Nat :=
  (l.map textLength).sum

theorem byteLength_joinedText_le (a b : Snippet) :
    byteLength (joinedText a b) <= textLength a + textLength b := by
  unfold joinedText
  split
  · exact Nat.le_add_right _ _
  · rw [Text.byteLength_append]
    apply Nat.add_le_add_left
    cases hdrop : Text.dropBytes? (a.stop - b.start) b.text.toList with
    | none => exact Nat.le_refl _
    | some rest =>
        rcases Text.dropBytes?_eq_some_iff.mp hdrop with ⟨front, htext, _⟩
        rw [textLength, htext, Text.byteLength_append]
        exact Nat.le_add_left _ _

theorem textLength_join_le (a b : Snippet) :
    textLength (a.join b) <= textLength a + textLength b := by
  unfold Snippet.join
  split
  · rw [textLength, String.toList_ofList]
    exact byteLength_joinedText_le a b
  · rw [textLength, String.toList_ofList, Nat.add_comm]
    exact byteLength_joinedText_le b a

theorem JoinedFrom.exists_sum {l : List Snippet} {A : Set Nat} {s : Snippet}
    (h : JoinedFrom l A s) : exists F : Finset Nat, (F : Set Nat) = A ∧
      textLength s <= ∑ i ∈ F, ((l.map textLength)[i]?).getD 0 := by
  induction h with
  | @single i s hs =>
      refine ⟨{i}, Finset.coe_singleton i, ?_⟩
      rw [Finset.sum_singleton, List.getElem?_map, hs]
      exact Nat.le_refl _
  | @join A B a b _ _ hseparate _ iha ihb =>
      rcases iha with ⟨F, rfl, hF⟩
      rcases ihb with ⟨G, rfl, hG⟩
      refine ⟨F ∪ G, Finset.coe_union F G, ?_⟩
      rw [Finset.sum_union (Finset.disjoint_left.mpr hseparate)]
      exact Nat.le_trans (textLength_join_le a b) (Nat.add_le_add hF hG)

theorem JoinedFrom.textLength_le {l : List Snippet} {A : Set Nat} {s : Snippet}
    (h : JoinedFrom l A s) : textLength s <= totalLength l := by
  rcases h.exists_sum with ⟨F, rfl, hsum⟩
  have hsub : F ⊆ Finset.range (l.map textLength).length := by
    intro i hi
    rw [Finset.mem_range, List.length_map]
    exact h.lt_length (Finset.mem_coe.mpr hi)
  calc textLength s
      _ <= ∑ i ∈ F, ((l.map textLength)[i]?).getD 0 := hsum
      _ <= ∑ i ∈ Finset.range (l.map textLength).length, ((l.map textLength)[i]?).getD 0 :=
        Finset.sum_le_sum_of_subset hsub
      _ = totalLength l := by
        rw [Finset.sum_range, totalLength, ← Fin.sum_univ_getElem]
        refine Finset.sum_congr rfl fun i _ => ?_
        rw [List.getElem?_eq_getElem i.isLt, Option.getD_some]

theorem JoinedFrom.stop_le {l : List Snippet} {A : Set Nat} {s : Snippet} (h : JoinedFrom l A s)
    {limit : Nat} (hlimit : forall x, x ∈ l -> x.start + totalLength l <= limit) :
    s.stop <= limit := by
  rcases h.exists_origin with ⟨i, a, _, ha, _, hstart⟩
  have hbound := hlimit a (List.mem_of_getElem? ha)
  have hlength := h.textLength_le
  have hstop : s.stop = s.start + textLength s := rfl
  omega

/-!
# Merging

The first group that a snippet touches takes it in.  As long as the result touches another
group, the two are joined in the place of the first.
-/

section

variable {l : List Snippet} {s : Snippet} {gs : List Group} {g h : Group}

theorem Division.unite {front mid back : List Group}
    (hdivision : Division l (front ++ g :: (mid ++ h :: back)))
    (htouch : g.snippet.touches h.snippet = true) :
    Division l (front ++ g.union h :: (mid ++ back)) := by
  have hg : g ∈ front ++ g :: (mid ++ h :: back) := by simp
  have hh : h ∈ front ++ g :: (mid ++ h :: back) := by simp
  have hrank : g.rank < h.rank := by
    have hranks := hdivision.ranks
    rw [List.map_append, List.map_cons] at hranks
    exact List.rel_of_pairwise_cons (List.pairwise_append.mp hranks).right.left
      (List.mem_map_of_mem (by simp))
  have hseparate := hdivision.separate
  rw [List.pairwise_middle symm, List.pairwise_cons, ← List.append_assoc,
    List.pairwise_middle symm, List.pairwise_cons] at hseparate
  rcases hseparate with ⟨hothers, hothers', hrest⟩
  have hkept : forall x, x ∈ front ++ g.union h :: (mid ++ back) ->
      x = g.union h ∨ x ∈ front ++ g :: (mid ++ h :: back) := by
    intro x hx
    simp only [List.mem_append, List.mem_cons] at hx ⊢
    grind
  constructor
  · intro x hx
    rcases hkept x hx with rfl | hx
    · exact (hdivision.joined g hg).join (hdivision.joined h hh) (hothers h (by simp)) htouch
    · exact hdivision.joined x hx
  · intro x hx
    rcases hkept x hx with rfl | hx
    · have hleast := (hdivision.rank g hg).union (hdivision.rank h hh)
      rw [Nat.min_eq_left (Nat.le_of_lt hrank)] at hleast
      exact hleast
    · exact hdivision.rank x hx
  · intro i hi
    rcases hdivision.grouped i hi with ⟨x, hx, hmem⟩
    by_cases hunited : x = g ∨ x = h
    · refine ⟨g.union h, by simp, ?_⟩
      rcases hunited with rfl | rfl
      · exact Or.inl hmem
      · exact Or.inr hmem
    · refine ⟨x, ?_, hmem⟩
      simp only [List.mem_append, List.mem_cons] at hx ⊢
      grind
  · rw [List.pairwise_middle symm, List.pairwise_cons, ← List.append_assoc]
    refine ⟨fun x hx => ?_, hrest⟩
    rintro i (hi | hi)
    · exact hothers x (by grind) i hi
    · exact hothers' x hx i hi
  · refine hdivision.ranks.sublist ?_
    simp only [List.map_append, List.map_cons]
    exact ((List.sublist_cons_self h.rank _).append_left _ |>.cons_cons g.rank).append_left _

theorem settle_division {before after : List Group} {g : Group}
    (hdivision : Division l (before ++ g :: after)) (hapart : Apart (before ++ after)) :
    exists gs, settle (before.map Group.snippet) g.snippet (after.map Group.snippet) =
      gs.map Group.snippet ∧ Division l gs ∧ Apart gs := by
  unfold settle
  split
  · rename_i front x back hfirst
    rcases exists_group_of_firstTouching? hfirst with ⟨front, hit, back, rfl, rfl, rfl, rfl, htouch⟩
    rw [List.append_assoc, List.cons_append] at hdivision hapart
    have hunited := hdivision.unite htouch
    have hrest : Apart (front ++ (back ++ after)) :=
      hapart.sublist ((List.sublist_cons_self hit _).append_left front)
    rw [← List.map_append]
    exact settle_division hunited hrest
  · rename_i hbefore
    split
    · rename_i front x back hfirst
      rcases exists_group_of_firstTouching? hfirst with
        ⟨front, hit, back, rfl, rfl, rfl, rfl, htouch⟩
      have hunited := hdivision.unite (touches_comm.mp htouch)
      have hrest : Apart (before ++ (front ++ back)) :=
        hapart.sublist (((List.sublist_cons_self hit _).append_left front).append_left before)
      rw [← List.map_append]
      exact settle_division hunited hrest
    · rename_i hafter
      refine ⟨before ++ g :: after, by rw [List.map_append, List.map_cons], hdivision, ?_⟩
      refine (List.pairwise_middle (R := Clear) symm).mpr (List.pairwise_cons.mpr ⟨?_, hapart⟩)
      intro x hx htouch
      rcases List.mem_append.mp hx with hx | hx
      · exact not_touches_of_firstTouching? hbefore _ (List.mem_map_of_mem hx)
          (touches_comm.mp htouch)
      · exact not_touches_of_firstTouching? hafter _ (List.mem_map_of_mem hx)
          (touches_comm.mp htouch)
termination_by before.length + after.length

theorem Division.concat (hdivision : Division l gs) :
    Division (l ++ [s]) (gs ++ [Group.single l.length s]) := by
  have hold : forall g, g ∈ gs -> forall i, i ∈ g.members -> i < l.length :=
    fun g hg i hi => (hdivision.joined g hg).lt_length hi
  constructor
  · intro g hg
    rcases List.mem_append.mp hg with hg | hg
    · exact (hdivision.joined g hg).concat s
    · rw [List.mem_singleton.mp hg]
      exact JoinedFrom.single List.getElem?_concat_length
  · intro g hg
    rcases List.mem_append.mp hg with hg | hg
    · exact hdivision.rank g hg
    · rw [List.mem_singleton.mp hg]
      exact isLeast_singleton
  · intro i hi
    rw [List.length_append, List.length_singleton] at hi
    rcases Nat.lt_succ_iff_lt_or_eq.mp hi with hlt | rfl
    · rcases hdivision.grouped i hlt with ⟨g, hg, hmem⟩
      exact ⟨g, List.mem_append_left _ hg, hmem⟩
    · exact ⟨_, List.mem_append_right gs List.mem_cons_self, rfl⟩
  · refine List.pairwise_append.mpr ⟨hdivision.separate, List.pairwise_singleton _ _, ?_⟩
    intro g hg h hh
    rw [List.mem_singleton.mp hh]
    rintro i hi rfl
    exact Nat.lt_irrefl _ (hold g hg _ hi)
  · rw [List.map_append, List.pairwise_append]
    refine ⟨hdivision.ranks, List.pairwise_singleton _ _, ?_⟩
    intro m hm n hn
    rcases List.mem_map.mp hm with ⟨g, hg, rfl⟩
    rw [List.mem_singleton.mp hn]
    exact hold g hg _ (hdivision.rank g hg).left

theorem absorb_division (hdivision : Division l gs) (hapart : Apart gs) :
    exists gs', absorb (gs.map Group.snippet) s = gs'.map Group.snippet ∧
      Division (l ++ [s]) gs' ∧ Apart gs' := by
  have hadded := hdivision.concat (s := s)
  unfold absorb
  split
  · rename_i before x after hfirst
    rcases exists_group_of_firstTouching? hfirst with ⟨front, hit, back, rfl, rfl, rfl, rfl, htouch⟩
    rw [List.append_assoc, List.cons_append] at hadded
    have hunited := hadded.unite (h := Group.single l.length s) htouch
    rw [List.append_nil] at hunited
    have hdropped := (List.sublist_cons_self hit back).append_left front
    exact settle_division hunited (hapart.sublist hdropped)
  · rename_i hfirst
    refine ⟨_, by rw [List.map_append]; rfl, hadded, ?_⟩
    refine List.pairwise_append.mpr ⟨hapart, List.pairwise_singleton _ _, ?_⟩
    intro g hg h hh htouch
    rw [List.mem_singleton.mp hh] at htouch
    exact not_touches_of_firstTouching? hfirst _ (List.mem_map_of_mem hg) htouch

theorem merge_concat (l : List Snippet) (s : Snippet) :
    merge (l ++ [s]) = absorb (merge l) s := by
  rw [merge, List.foldl_append]
  rfl

/-- The induction over the list: all snippets so far are in groups that do not touch. -/
theorem merge_division (l : List Snippet) :
    exists gs, merge l = gs.map Group.snippet ∧ Division l gs ∧ Apart gs := by
  induction l using List.reverseRecOn with
  | nil => exact ⟨[], rfl, by constructor <;> simp, List.Pairwise.nil⟩
  | append_singleton l s ih =>
      rcases ih with ⟨gs, hmerge, hdivision, hapart⟩
      rw [merge_concat, hmerge]
      exact absorb_division hdivision hapart

theorem forall_mem_merge {p : Snippet -> Prop}
    (hjoin : forall a b, a.touches b = true -> p a -> p b -> p (join a b))
    (hl : forall x, x ∈ l -> p x) : forall x, x ∈ merge l -> p x := by
  rcases merge_division l with ⟨gs, hmerge, hdivision, _⟩
  intro x hx
  rw [hmerge] at hx
  rcases List.mem_map.mp hx with ⟨g, hg, rfl⟩
  exact (hdivision.joined g hg).of_all hjoin hl

theorem length_merge_le (l : List Snippet) : (merge l).length <= l.length := by
  rcases merge_division l with ⟨gs, hmerge, hdivision, _⟩
  have hnodup : (gs.map Group.rank).Nodup := hdivision.ranks.imp fun hlt => Nat.ne_of_lt hlt
  have hbounded : gs.map Group.rank ⊆ List.range l.length := by
    intro r hr
    rcases List.mem_map.mp hr with ⟨g, hg, rfl⟩
    exact List.mem_range.mpr ((hdivision.joined g hg).lt_length (hdivision.rank g hg).left)
  have hlength := hnodup.length_le_of_subset hbounded
  rw [List.length_map, List.length_range] at hlength
  rw [hmerge, List.length_map]
  exact hlength

theorem merge_of_pairwise (hl : l.Pairwise fun a b => ¬ a.touches b = true) : merge l = l := by
  induction l using List.reverseRecOn with
  | nil => rfl
  | append_singleton l s ih =>
      rcases List.pairwise_append.mp hl with ⟨hfront, _, hlast⟩
      rw [merge_concat, ih hfront, absorb]
      split
      · rename_i before x after hfirst
        have hx : x ∈ l := by
          rw [firstTouching?_eq_append hfirst]
          exact List.mem_append_right _ List.mem_cons_self
        exact absurd (touches_of_firstTouching? hfirst) (hlast x hx s List.mem_cons_self)
      · rfl

end

/-- What merging makes of any list, also if the offsets fit neither the texts nor one another.  The
positions of the list are divided among groups, and the results are what the groups are joined
into, in the order of their first positions, with the source and the start of one of their
members.  No two results touch, so merging them again changes nothing.  If each start and the length
of all texts together stay within a limit, so does the end of every snippet that is joined on the
way. -/
theorem merge_settles_for_good (l : List Snippet) :
    (merge l).length <= l.length ∧
    (merge l).Pairwise (fun a b => ¬ a.touches b = true) ∧
    (exists gs, merge l = gs.map Group.snippet ∧ Division l gs ∧
      forall g, g ∈ gs -> exists i s, i ∈ g.members ∧ l[i]? = some s ∧
        g.snippet.source = s.source ∧ g.snippet.start = s.start) ∧
    merge (merge l) = merge l ∧
    forall limit, (forall s, s ∈ l -> s.start + totalLength l <= limit) ->
      forall members s, JoinedFrom l members s -> s.stop <= limit := by
  rcases merge_division l with ⟨gs, hmerge, hdivision, hapart⟩
  have hpairwise : (merge l).Pairwise fun a b => ¬ a.touches b = true := by
    rw [hmerge]
    exact List.pairwise_map.mpr hapart
  refine ⟨length_merge_le l, hpairwise, ⟨gs, hmerge, hdivision, ?_⟩,
    merge_of_pairwise hpairwise, ?_⟩
  · intro g hg
    exact (hdivision.joined g hg).exists_origin
  · intro limit hlimit members s hs
    exact hs.stop_le hlimit

/-- The last two are joined although a character is cut where they overlap, and reach the first only
then. -/
def liars : List Snippet := [
  { source := "tale", start := 4, text := "z" },
  { source := "tale", start := 0, text := "ab" },
  { source := "tale", start := 1, text := "ä" }]

theorem liars_settle :
    merge liars = [{ source := "tale", start := 0, text := "abäz" }] ∧
      merge (merge liars) = merge liars ∧
      (forall s, s ∈ liars -> s.start + totalLength liars <= 9) ∧
      forall members s, JoinedFrom liars members s -> s.stop <= 9 := by
  have hlimit : forall s, s ∈ liars -> s.start + totalLength liars <= 9 := by decide +kernel
  rcases merge_settles_for_good liars with ⟨_, _, _, hagain, hstop⟩
  exact ⟨by decide +kernel, hagain, hlimit, hstop 9 hlimit⟩

end Snippet
end Colloquy
