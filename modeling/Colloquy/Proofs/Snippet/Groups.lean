import Colloquy.Proofs.Snippet.Touching
import Mathlib.Data.Set.Image
import Mathlib.Logic.Relation
import Mathlib.Order.Bounds.Basic

/-!
# Groups of snippets

A group is a set of positions in a list whose snippets are linked by touching and are
united in one snippet.  Merging keeps the positions of a list divided into groups, in
the order of their first members.
-/

namespace Colloquy
namespace Snippet

def snippetsAt (l : List Snippet) (positions : Set Nat) : Set Snippet :=
  {s | exists i, i ∈ positions ∧ l[i]? = some s}

def Meets (l : List Snippet) (i j : Nat) : Prop :=
  exists a b, l[i]? = some a ∧ l[j]? = some b ∧ a.touches b = true

def Consistent (text : String -> List Char) (l : List Snippet) : Prop :=
  forall s, s ∈ l -> s.IsSliceOf (text s.source)

/-- The snippet is the slice from the first byte to the last of a set of snippets, with
the pages from the first to the last. -/
structure Unites (text : String -> List Char) (members : Set Snippet) (s : Snippet) : Prop where
  source : forall a, a ∈ members -> a.source = s.source
  start : IsLeast (start '' members) s.start
  stop : IsGreatest (stop '' members) s.stop
  firstPage : IsLeast (firstPage '' members) s.firstPage
  lastPage : IsGreatest (lastPage '' members) s.lastPage
  slice : s.IsSliceOf (text s.source)

/-- The set of snippets has no gap in what the snippet covers. -/
structure Fills (members : Set Snippet) (s : Snippet) : Prop where
  touches : forall x : Snippet, x.touches s = true <-> exists a, a ∈ members ∧ x.touches a = true
  covers : forall source byte, s.Covers source byte <->
    exists a, a ∈ members ∧ a.Covers source byte

section

variable {text : String -> List Char} {l : List Snippet} {a b s : Snippet} {A B : Set Snippet}

theorem unites_singleton (h : s.IsSliceOf (text s.source)) : Unites text {s} s where
  source := by
    rintro a rfl
    rfl
  start := by
    rw [Set.image_singleton]
    exact isLeast_singleton
  stop := by
    rw [Set.image_singleton]
    exact isGreatest_singleton
  firstPage := by
    rw [Set.image_singleton]
    exact isLeast_singleton
  lastPage := by
    rw [Set.image_singleton]
    exact isGreatest_singleton
  slice := h

theorem fills_singleton : Fills {s} s where
  touches := by simp
  covers := by simp

theorem Unites.slices (ha : Unites text A a) (hb : Unites text B b) (h : a.touches b = true) :
    a.IsSliceOf (text a.source) ∧ b.IsSliceOf (text a.source) := by
  refine ⟨ha.slice, ?_⟩
  rw [(touches_iff.mp h).left]
  exact hb.slice

theorem Unites.join (ha : Unites text A a) (hb : Unites text B b) (h : a.touches b = true) :
    Unites text (A ∪ B) (a.join b) := by
  rcases ha.slices hb h with ⟨hslice, hslice'⟩
  rcases join_of_isSliceOf hslice hslice' h with ⟨hstop, hjoin⟩
  have hsource := join_source h
  constructor
  · rintro x (hx | hx)
    · rw [hsource, ha.source x hx]
    · rw [hsource, (touches_iff.mp h).left, hb.source x hx]
  · rw [Set.image_union, join_start]
    exact ha.start.union hb.start
  · rw [Set.image_union, hstop]
    exact ha.stop.union hb.stop
  · rw [Set.image_union, join_firstPage]
    exact ha.firstPage.union hb.firstPage
  · rw [Set.image_union, join_lastPage]
    exact ha.lastPage.union hb.lastPage
  · rw [hsource]
    exact hjoin

theorem Fills.join (ha : Fills A a) (hb : Fills B b) {cs : List Char} (hslice : a.IsSliceOf cs)
    (hslice' : b.IsSliceOf cs) (h : a.touches b = true) : Fills (A ∪ B) (a.join b) where
  touches := by
    intro x
    rw [touches_join_iff hslice hslice' h, ha.touches, hb.touches]
    simp [or_and_right, exists_or]
  covers := by
    intro source byte
    rw [covers_join_iff hslice hslice' h, ha.covers, hb.covers]
    simp [or_and_right, exists_or]

theorem Unites.unique (ha : Unites text A a) (hb : Unites text A b) (hne : A.Nonempty) : a = b := by
  rcases hne with ⟨x, hx⟩
  have hsource : a.source = b.source := (ha.source x hx).symm.trans (hb.source x hx)
  have hstart := ha.start.unique hb.start
  have hstop := ha.stop.unique hb.stop
  have htext : a.text = b.text := by
    have ha' := ha.slice
    have hb' := hb.slice
    rw [IsSliceOf, hsource, hstart, hstop] at ha'
    rw [IsSliceOf, ha'] at hb'
    exact String.toList_inj.mp (Option.some.inj hb')
  have hfirstPage := ha.firstPage.unique hb.firstPage
  have hlastPage := ha.lastPage.unique hb.lastPage
  rcases a with ⟨source, start, firstPage, lastPage, string⟩
  rcases b with ⟨source', start', firstPage', lastPage', string'⟩
  cases hsource
  cases hstart
  cases hfirstPage
  cases hlastPage
  cases htext
  rfl

end

/-!
# Groups
-/

structure Group where
  rank : Nat
  members : Set Nat
  snippet : Snippet

namespace Group

structure IsSound (text : String -> List Char) (l : List Snippet) (g : Group) : Prop where
  rank : IsLeast g.members g.rank
  bounded : forall i, i ∈ g.members -> i < l.length
  linked : forall i j, i ∈ g.members -> j ∈ g.members -> Relation.ReflTransGen (Meets l) i j
  unites : Unites text (snippetsAt l g.members) g.snippet
  fills : Fills (snippetsAt l g.members) g.snippet

def single (i : Nat) (s : Snippet) : Group :=
  ⟨i, {i}, s⟩

def union (g h : Group) : Group :=
  ⟨g.rank, g.members ∪ h.members, g.snippet.join h.snippet⟩

end Group

section

variable {l : List Snippet} {s : Snippet}

theorem Meets.symm {i j : Nat} (hmeets : Meets l i j) : Meets l j i := by
  rcases hmeets with ⟨a, b, ha, hb, htouch⟩
  exact ⟨b, a, hb, ha, touches_comm.mp htouch⟩

theorem snippetsAt_union {S T : Set Nat} :
    snippetsAt l (S ∪ T) = snippetsAt l S ∪ snippetsAt l T := by
  ext a
  simp [snippetsAt, or_and_right, exists_or]

theorem snippetsAt_singleton {i : Nat} (hs : l[i]? = some s) : snippetsAt l {i} = {s} := by
  ext a
  simp [snippetsAt, hs, eq_comm]

end

end Snippet
end Colloquy
