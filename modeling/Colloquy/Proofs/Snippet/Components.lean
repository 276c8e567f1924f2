import Colloquy.Proofs.Snippet.Merging
import Mathlib.Data.List.Forall2

/-!
# Merging and connected components

Merging a consistent list unites each connected component of touching snippets in one
snippet, and the results stand in the order of the first members.
-/

namespace Colloquy
namespace Snippet

/-- The positions divide into sound groups, in the order of their ranks. -/
structure Grouping (text : String -> List Char) (l : List Snippet) (gs : List Group) : Prop where
  sound : forall g, g ∈ gs -> g.IsSound text l
  grouped : forall i, i < l.length -> exists g, g ∈ gs ∧ i ∈ g.members
  ranks : (gs.map Group.rank).Pairwise (· < ·)

section

variable {text : String -> List Char} {l : List Snippet} {s : Snippet} {gs : List Group}
  {g h : Group} {A : Set Nat}

/-!
# Groups of slices

Slices of one text that touch make a slice without gaps, so a group of them touches what one of
its members touches.
-/

theorem JoinedFrom.unites (h : JoinedFrom l A s) (hl : Consistent text l) :
    Unites text (snippetsAt l A) s := by
  induction h with
  | single hs =>
      rw [snippetsAt_singleton hs]
      exact unites_singleton (hl _ (List.mem_of_getElem? hs))
  | join _ _ _ htouch iha ihb =>
      rw [snippetsAt_union]
      exact iha.join ihb htouch

theorem JoinedFrom.fills (h : JoinedFrom l A s) (hl : Consistent text l) :
    Fills (snippetsAt l A) s := by
  induction h with
  | single hs =>
      rw [snippetsAt_singleton hs]
      exact fills_singleton
  | join ha hb _ htouch iha ihb =>
      rcases (ha.unites hl).slices (hb.unites hl) htouch with ⟨hslice, hslice'⟩
      rw [snippetsAt_union]
      exact iha.join ihb hslice hslice' htouch

theorem JoinedFrom.linked (h : JoinedFrom l A s) (hl : Consistent text l) {i j : Nat} (hi : i ∈ A)
    (hj : j ∈ A) : Relation.ReflTransGen (Meets l) i j := by
  induction h generalizing i j with
  | single _ =>
      rw [Set.mem_singleton_iff.mp hi, Set.mem_singleton_iff.mp hj]
  | @join A B a b ha hb _ htouch iha ihb =>
      have hbridge : exists i j, i ∈ A ∧ j ∈ B ∧ Meets l i j := by
        rcases ((hb.fills hl).touches a).mp htouch with ⟨y, ⟨j, hj, hy⟩, hay⟩
        rcases ((ha.fills hl).touches y).mp (touches_comm.mp hay) with ⟨x, ⟨i, hi, hx⟩, hyx⟩
        exact ⟨i, j, hi, hj, x, y, hx, hy, touches_comm.mp hyx⟩
      rcases hbridge with ⟨i₀, j₀, hi₀, hj₀, hmeets⟩
      rcases hi with hi | hi
      · rcases hj with hj | hj
        · exact iha hi hj
        · exact ((iha hi hi₀).tail hmeets).trans (ihb hj₀ hj)
      · rcases hj with hj | hj
        · exact ((ihb hi hj₀).tail hmeets.symm).trans (iha hi₀ hj)
        · exact ihb hi hj

theorem Division.grouping (hdivision : Division l gs) (hl : Consistent text l) :
    Grouping text l gs where
  sound := by
    intro g hg
    have hjoined := hdivision.joined g hg
    constructor
    · exact hdivision.rank g hg
    · exact fun i hi => hjoined.lt_length hi
    · exact fun i j hi hj => hjoined.linked hl hi hj
    · exact hjoined.unites hl
    · exact hjoined.fills hl
  grouped := hdivision.grouped
  ranks := hdivision.ranks

theorem merge_grouping (hl : Consistent text l) :
    exists gs, merge l = gs.map Group.snippet ∧ Grouping text l gs ∧ Apart gs := by
  rcases merge_division l with ⟨gs, hmerge, hdivision, hapart⟩
  exact ⟨gs, hmerge, hdivision.grouping hl, hapart⟩

/-!
# Components

The groups do not touch each other, so no link leads out of one.
-/

/-- The positions that are linked to a position by touching snippets. -/
def component (l : List Snippet) (i : Nat) : Set Nat :=
  {j | Relation.ReflTransGen (Meets l) i j}

theorem Grouping.closed (hgrouping : Grouping text l gs) (hapart : Apart gs) (hg : g ∈ gs)
    {a b : Snippet} (ha : a ∈ snippetsAt l g.members) {j : Nat} (hb : l[j]? = some b)
    (htouch : a.touches b = true) : j ∈ g.members := by
  rcases hgrouping.grouped j (List.getElem?_eq_some_iff.mp hb).choose with ⟨h, hh, hj⟩
  have hgh : g.snippet.touches h.snippet = true := by
    have hah := ((hgrouping.sound h hh).fills.touches a).mpr ⟨b, ⟨j, hj, hb⟩, htouch⟩
    have hhg := ((hgrouping.sound g hg).fills.touches h.snippet).mpr
      ⟨a, ha, touches_comm.mp hah⟩
    exact touches_comm.mp hhg
  have hsame : g = h := by
    by_contra hne
    exact hapart.forall hg hh hne hgh
  rw [hsame]
  exact hj

/-- A group is the component of each of its members. -/
theorem Grouping.component_eq (hgrouping : Grouping text l gs) (hapart : Apart gs) (hg : g ∈ gs)
    {i : Nat} (hi : i ∈ g.members) : component l i = g.members := by
  ext j
  constructor
  · intro hlinked
    induction hlinked with
    | refl => exact hi
    | tail _ hmeets ih =>
        rcases hmeets with ⟨a, b, ha, hb, htouch⟩
        exact hgrouping.closed hapart hg ⟨_, ih, ha⟩ hb htouch
  · intro hj
    exact (hgrouping.sound g hg).linked i j hi hj

theorem Grouping.snippetsAt_subset (hgrouping : Grouping text l gs) (hg : g ∈ gs)
    {l' : List Snippet} (hsubset : l ⊆ l') {gs' : List Group} (hgrouping' : Grouping text l' gs')
    (hapart' : Apart gs') (hh : h ∈ gs') {a : Snippet} (ha : a ∈ snippetsAt l g.members)
    (ha' : a ∈ snippetsAt l' h.members) :
    snippetsAt l g.members ⊆ snippetsAt l' h.members := by
  rcases ha with ⟨i, hi, ha⟩
  rintro b ⟨j, hj, hb⟩
  have hlinked := (hgrouping.sound g hg).linked i j hi hj
  clear hj
  induction hlinked generalizing b with
  | refl =>
      rw [ha] at hb
      cases hb
      exact ha'
  | tail _ hmeets ih =>
      rcases hmeets with ⟨c, b', hc, hb', htouch⟩
      rw [hb] at hb'
      cases hb'
      rcases List.getElem?_of_mem (hsubset (List.mem_of_getElem? hb)) with ⟨k, hk⟩
      exact ⟨k, hgrouping'.closed hapart' hh (ih hc) hk htouch, hk⟩

theorem Apart.nodup (hapart : Apart gs) : (gs.map Group.snippet).Nodup := by
  refine List.pairwise_map.mpr (hapart.imp fun hclear hsame => hclear ?_)
  rw [hsame]
  exact touches_self

theorem merge_subset {l' : List Snippet} (hl : Consistent text l) (hl' : Consistent text l')
    (hsubset : l ⊆ l') (hsubset' : l' ⊆ l) : merge l ⊆ merge l' := by
  rcases merge_grouping hl with ⟨gs, hmerge, hgrouping, hapart⟩
  rcases merge_grouping hl' with ⟨gs', hmerge', hgrouping', hapart'⟩
  rw [hmerge, hmerge']
  intro s hs
  rcases List.mem_map.mp hs with ⟨g, hg, rfl⟩
  have hsound := hgrouping.sound g hg
  have hrank := hsound.bounded g.rank hsound.rank.left
  have ha : l[g.rank] ∈ snippetsAt l g.members :=
    ⟨g.rank, hsound.rank.left, List.getElem?_eq_getElem hrank⟩
  rcases List.getElem?_of_mem (hsubset (List.getElem_mem hrank)) with ⟨j, hj⟩
  rcases hgrouping'.grouped j (List.getElem?_eq_some_iff.mp hj).choose with ⟨h, hh, hmem⟩
  have ha' : l[g.rank] ∈ snippetsAt l' h.members := ⟨j, hmem, hj⟩
  have hmembers : snippetsAt l g.members = snippetsAt l' h.members :=
    Set.Subset.antisymm (hgrouping.snippetsAt_subset hg hsubset hgrouping' hapart' hh ha ha')
      (hgrouping'.snippetsAt_subset hh hsubset' hgrouping hapart hg ha' ha)
  have hunites := (hgrouping'.sound h hh).unites
  rw [← hmembers] at hunites
  rw [hsound.unites.unique hunites ⟨_, ha⟩]
  exact List.mem_map_of_mem hh

/-- What merging makes of a consistent list: one snippet for each connected component, in
the order of their first positions, which together cover what the list covers; the order
of the list decides only about the order of the results. -/
theorem merge_unites_components (hl : Consistent text l) :
    (exists ranks : List Nat, ranks.Pairwise (· < ·) ∧
      (forall i, i < l.length -> exists r, r ∈ ranks ∧ i ∈ component l r) ∧
      List.Forall₂ (fun r s => r < l.length ∧ IsLeast (component l r) r ∧
        Unites text (snippetsAt l (component l r)) s) ranks (merge l)) ∧
    (merge l).Pairwise (fun a b => ¬ a.touches b = true) ∧
    (forall source byte, (exists s, s ∈ merge l ∧ s.Covers source byte) <->
      exists s, s ∈ l ∧ s.Covers source byte) ∧
    forall l', l.Perm l' -> (merge l).Perm (merge l') := by
  rcases merge_grouping hl with ⟨gs, hmerge, hgrouping, hapart⟩
  have hcomponent : forall g, g ∈ gs -> component l g.rank = g.members := fun g hg =>
    hgrouping.component_eq hapart hg (hgrouping.sound g hg).rank.left
  refine ⟨⟨gs.map Group.rank, hgrouping.ranks, ?_, ?_⟩, ?_, ?_, ?_⟩
  · intro i hi
    rcases hgrouping.grouped i hi with ⟨g, hg, hmem⟩
    refine ⟨g.rank, List.mem_map_of_mem hg, ?_⟩
    rw [hcomponent g hg]
    exact hmem
  · rw [hmerge, List.forall₂_map_left_iff, List.forall₂_map_right_iff, List.forall₂_same]
    intro g hg
    have hsound := hgrouping.sound g hg
    rw [hcomponent g hg]
    exact ⟨hsound.bounded _ hsound.rank.left, hsound.rank, hsound.unites⟩
  · rw [hmerge]
    exact List.pairwise_map.mpr hapart
  · intro source byte
    rw [hmerge]
    constructor
    · rintro ⟨s, hs, hcovers⟩
      rcases List.mem_map.mp hs with ⟨g, hg, rfl⟩
      rcases ((hgrouping.sound g hg).fills.covers source byte).mp hcovers with
        ⟨a, ⟨i, _, ha⟩, hcovers⟩
      exact ⟨a, List.mem_of_getElem? ha, hcovers⟩
    · rintro ⟨a, ha, hcovers⟩
      rcases List.getElem?_of_mem ha with ⟨i, hi⟩
      rcases hgrouping.grouped i (List.getElem?_eq_some_iff.mp hi).choose with ⟨g, hg, hmem⟩
      refine ⟨g.snippet, List.mem_map_of_mem hg, ?_⟩
      exact ((hgrouping.sound g hg).fills.covers source byte).mpr ⟨a, ⟨i, hmem, hi⟩, hcovers⟩
  · intro l' hperm
    have hl' : Consistent text l' := fun s hs => hl s (hperm.mem_iff.mpr hs)
    rcases merge_grouping hl' with ⟨gs', hmerge', _, hapart'⟩
    refine (List.perm_ext_iff_of_nodup ?_ ?_).mpr fun s => ⟨?_, ?_⟩
    · rw [hmerge]
      exact hapart.nodup
    · rw [hmerge']
      exact hapart'.nodup
    · exact fun hs => merge_subset hl hl' hperm.subset hperm.symm.subset hs
    · exact fun hs => merge_subset hl' hl hperm.symm.subset hperm.subset hs

end

def bridged : List Snippet := [
  { source := "manual", start := 4, text := "cd" },
  { source := "manual", start := 0, text := "aä" },
  { source := "manual", start := 3, text := "bc" }]

theorem bridged_merges :
    Consistent (fun _ => "aäbcd".toList) bridged ∧
      (exists ranks : List Nat, List.Forall₂ (fun r s => IsLeast (component bridged r) r ∧
        Unites (fun _ => "aäbcd".toList) (snippetsAt bridged (component bridged r)) s)
          ranks (merge bridged)) ∧
      (merge bridged).Perm (merge bridged.reverse) := by
  have hconsistent : Consistent (fun _ => "aäbcd".toList) bridged := by
    intro s hs
    rw [isSliceOf_iff]
    simp only [bridged, List.mem_cons, List.not_mem_nil, or_false] at hs
    rcases hs with rfl | rfl | rfl
    · exact ⟨['a', 'ä', 'b'], [], by decide +kernel, by decide +kernel⟩
    · exact ⟨[], ['b', 'c', 'd'], by decide +kernel, by decide +kernel⟩
    · exact ⟨['a', 'ä'], ['d'], by decide +kernel, by decide +kernel⟩
  rcases merge_unites_components hconsistent with ⟨⟨ranks, _, _, hranks⟩, _, _, hperm⟩
  refine ⟨hconsistent, ⟨ranks, ?_⟩, hperm _ (List.reverse_perm bridged).symm⟩
  exact hranks.imp fun r s h => h.right

end Snippet
end Colloquy
