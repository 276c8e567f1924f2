import Colloquy.Proofs.Index.Additions
import Colloquy.Proofs.Snippet.Merging
import Mathlib.Data.List.Permutation

/-!
# Documents that are added again

A document that is added again takes the entries of its earlier versions at the places where its
own chunks begin.  What begins elsewhere is left over: it is still found, and merged with the new
text where the two touch.
-/

namespace Colloquy

namespace Snippet

variable {a b c s : Snippet}

theorem contains_self : s.Contains s :=
  ⟨rfl, Nat.le_refl _, Nat.le_refl _⟩

theorem contains_join_left (h : a.touches b = true) (ha : a.Contains c) :
    (join a b).Contains c := by
  rcases ha with ⟨hsource, hstart, hstop⟩
  have hjoin := le_stop_join h
  refine ⟨hsource.trans (join_source h).symm, ?_, by omega⟩
  rw [join_start]
  exact Nat.le_trans (Nat.min_le_left _ _) hstart

theorem contains_join_right (h : a.touches b = true) (hb : b.Contains c) :
    (join a b).Contains c := by
  rcases hb with ⟨hsource, hstart, hstop⟩
  have hjoin := le_stop_join h
  refine ⟨?_, ?_, by omega⟩
  · rw [hsource, join_source h, (touches_iff.mp h).left]
  · rw [join_start]
    exact Nat.le_trans (Nat.min_le_right _ _) hstart

end Snippet

/-!
# What is found under names

What holds of every entry under its name holds of what is found, and is kept when a document is
added of whose chunks it holds.
-/

namespace Index

def Keeps (p : String -> Metadata -> Prop) (x : Index) : Prop :=
  forall name m, x.entries.lookup name = some m -> p name m

section

variable {p q : String -> Metadata -> Prop} {x : Index} {τ : Type} {embed : Embedder τ} {t : τ}
  {d : Document}

theorem keeps_of_entries_nil (h : x.entries = []) : x.Keeps p := by
  intro name m hm
  rw [h] at hm
  cases hm

theorem keeps_of_entries_eq {y : Index} (h : x.Keeps p) (heq : y.entries = x.entries) :
    y.Keeps p := by
  intro name m hm
  rw [heq] at hm
  exact h name m hm

theorem Keeps.mono (h : x.Keeps p) (himp : forall name m, p name m -> q name m) : x.Keeps q :=
  fun name m hm => himp name m (h name m hm)

theorem Keeps.add (h : x.Keeps p)
    (hd : forall s, s ∈ d.snippets x.settings -> p (name s) (.ofSnippet s)) :
    (x.add embed t d).2.2.Keeps p := by
  rcases entries_add embed t x d with ⟨kept, hsub, hentries, _⟩
  intro name m hm
  rw [hentries] at hm
  rcases Collection.lookup_putAll kept x.entries name with
    ⟨s, hs, hname, hlookup⟩ | ⟨_, hlookup⟩
  · rw [hlookup] at hm
    cases hm
    rw [← hname]
    exact hd s (hsub hs)
  · rw [hlookup] at hm
    exact h name m hm

theorem Keeps.nearest {query : String} {limit : Nat} {found : List Metadata} {m : Metadata}
    (h : x.Keeps p) (hfound : (x.nearest embed t query limit).1 = .ok found) (hm : m ∈ found) :
    exists name, p name m := by
  rcases search_of_nearest hfound with rfl | ⟨c, v, hc, hsearch⟩
  · cases hm
  · rcases Collection.exists_near_of_search hsearch with ⟨near, _, _, rfl⟩
    rcases List.mem_filterMap.mp hm with ⟨entry, _, hget⟩
    refine ⟨entry.1, h entry.1 m ?_⟩
    rw [entries, hc]
    exact hget

/-!
# Saving and opening again
-/

theorem entries_save : x.save.entries = x.entries := by
  unfold save
  split
  · rfl
  · rfl

theorem Keeps.reopen_save (h : x.Keeps p) : x.save.reopen.Keeps p := by
  unfold save reopen
  by_cases hdisk : x.onDisk
  · rw [if_pos hdisk]
    refine keeps_of_entries_eq h ?_
    unfold entries
    rw [if_pos hdisk]
    cases x.collection with
    | none => rfl
    | some c => rfl
  · rw [if_neg hdisk]
    refine keeps_of_entries_nil ?_
    unfold entries
    rw [if_neg hdisk]
    rfl

theorem reopen_add : (x.add embed t d).2.2.reopen = x.reopen := by
  unfold Index.add
  dsimp only
  split
  · rfl
  · split
    · rfl
    · unfold store
      split
      · rfl
      · split
        · rfl
        · rfl

theorem settings_save : x.save.settings = x.settings := by
  unfold save
  split
  · rfl
  · rfl

end

/-!
# Versions of a document

Chunks take their names from the places where they begin.  A later version of a document
replaces the chunks of an earlier one whose places it uses, and no others.
-/

def IsChunkOf (settings : Chunk.Settings) (d : Document) (m : Metadata) : Prop :=
  exists s, s ∈ d.snippets settings ∧ m = .ofSnippet s

/-- The metadata are those of a chunk of an earlier version of the document, and no chunk of the
document begins where it begins. -/
def IsLeftOver (settings : Chunk.Settings) (ds : List Document) (d : Document) (m : Metadata) :
    Prop :=
  exists d' s, d' ∈ ds ∧ d'.source = d.source ∧ s ∈ d'.snippets settings ∧ m = .ofSnippet s ∧
    forall s', s' ∈ d.snippets settings -> s'.start ≠ s.start

def IsEntryOf (settings : Chunk.Settings) (ds : List Document) (n : String) (m : Metadata) :
    Prop :=
  exists d s, d ∈ ds ∧ s ∈ d.snippets settings ∧ n = name s ∧ m = .ofSnippet s

def Replaced (d : Document) (x : Index) : Prop :=
  forall (τ : Type) (embed : Embedder τ) (t : τ) (query : String) (limit : Nat)
    (results : List Snippet), (x.find embed t query limit).1 = .ok results ->
      forall r, r ∈ results -> r.source = d.source -> r.IsSliceOf d.text

/-- Of the document a search has found its chunks and what is left over of earlier versions, and
the results are pieces of the document unless something left over is in them. -/
structure IsFoundOf (settings : Chunk.Settings) (ds : List Document) (d : Document)
    (found : List Metadata) (results : List Snippet) : Prop where
  origin : forall m, m ∈ found -> m.source = d.source ->
    IsChunkOf settings d m ∨ IsLeftOver settings ds d m
  pieces : forall r, r ∈ results -> r.source = d.source -> r.IsSliceOf d.text ∨
    exists m s, m ∈ found ∧ IsLeftOver settings ds d m ∧ m.snippet? = some s ∧ r.Contains s

/-- What can become of an index while the document with this name is not added again, and whether
it was saved meanwhile.  Only then is it opened again: before, that would undo what was added. -/
inductive Later (source : String) (x : Index) : Index -> Bool -> Prop where
  | now : Later source x x false
  | added {y : Index} {saved : Bool} (h : Later source x y saved) {τ : Type} (embed : Embedder τ)
      (t : τ) {d : Document} (hother : d.source ≠ source) :
      Later source x (y.add embed t d).2.2 saved
  | saved {y : Index} {saved : Bool} (h : Later source x y saved) : Later source x y.save true
  | reopened {y : Index} (h : Later source x y true) : Later source x y.reopen true

section

variable {p : String -> Metadata -> Prop} {x y : Index} {ds : List Document} {d : Document}
  {source : String} {saved : Bool} {settings : Chunk.Settings} {τ : Type} {embed : Embedder τ}
  {t : τ} {n : Nat} {m : Metadata}

theorem IsEntryOf.concat {n : String} (h : IsEntryOf settings ds n m) (d : Document) :
    IsEntryOf settings (ds ++ [d]) n m := by
  rcases h with ⟨d', s, hd', hs⟩
  exact ⟨d', s, List.mem_append_left _ hd', hs⟩

/-- The induction over the history of an index: each entry is a chunk of some version. -/
theorem History.keeps (h : History x ds) :
    x.Keeps (IsEntryOf x.settings ds) ∧ x.reopen.Keeps (IsEntryOf x.settings ds) := by
  induction h with
  | opened =>
      refine ⟨keeps_of_entries_nil rfl, keeps_of_entries_nil ?_⟩
      unfold reopen entries
      split
      · rfl
      · rfl
  | @added x ds h τ embed t d ih =>
      rcases ih with ⟨hnow, hdisk⟩
      rw [settings_add, reopen_add]
      have hmore : forall name m, IsEntryOf x.settings ds name m ->
          IsEntryOf x.settings (ds ++ [d]) name m := fun _ _ hentry => hentry.concat d
      refine ⟨(hnow.mono hmore).add fun s hs => ?_, hdisk.mono hmore⟩
      exact ⟨d, s, List.mem_append_right _ List.mem_cons_self, hs, rfl, rfl⟩
  | saved h ih =>
      rw [settings_save]
      exact ⟨keeps_of_entries_eq ih.left entries_save, ih.left.reopen_save⟩
  | reopened h ih => exact ⟨ih.right, ih.right⟩

theorem Later.keeps (h : Later source x y saved) (hx : x.Keeps p)
    (hother : forall s : Snippet, s.source ≠ source -> p (name s) (.ofSnippet s)) :
    y.Keeps p ∧ (saved = true -> y.reopen.Keeps p) := by
  -- What the index has of the document stays.
  induction h with
  | now => exact ⟨hx, fun hsaved => nomatch hsaved⟩
  | @added y saved h τ embed t d hd ih =>
      rw [reopen_add]
      refine ⟨ih.left.add fun s hs => hother s ?_, ih.right⟩
      rw [Document.source_of_mem_snippets hs]
      exact hd
  | saved h ih => exact ⟨keeps_of_entries_eq ih.left entries_save, fun _ => ih.left.reopen_save⟩
  | reopened h ih => exact ⟨ih.right rfl, ih.right⟩

theorem lookup_of_add (hembed : OneForEach embed) (hadd : (x.add embed t d).1 = .ok n)
    (key : String) :
    (exists s, s ∈ d.snippets x.settings ∧ name s = key ∧
        (x.add embed t d).2.2.entries.lookup key = some (.ofSnippet s)) ∨
      (forall s, s ∈ d.snippets x.settings -> name s ≠ key) ∧
        (x.add embed t d).2.2.entries.lookup key = x.entries.lookup key := by
  rcases entries_add embed t x d with ⟨kept, _, hentries, hok⟩
  rw [hentries, (hok n hadd).right hembed]
  exact Collection.lookup_putAll _ _ _

theorem keeps_add (h : x.Keeps (IsEntryOf x.settings ds)) (hembed : OneForEach embed)
    (hadd : (x.add embed t d).1 = .ok n) :
    (x.add embed t d).2.2.Keeps fun _ m => m.source = d.source ->
      IsChunkOf x.settings d m ∨ IsLeftOver x.settings ds d m := by
  intro key m hm hsource
  rcases lookup_of_add hembed hadd key with ⟨s, hs, _, hlookup⟩ | ⟨hnone, hlookup⟩
  · rw [hlookup] at hm
    cases hm
    exact Or.inl ⟨s, hs, rfl⟩
  · rw [hlookup] at hm
    rcases h key m hm with ⟨d', s, hd', hs, hname, rfl⟩
    have hd : s.source = d.source := hsource
    refine Or.inr ⟨d', s, hd', ?_, hs, rfl, fun s' hs' hstart => hnone s' hs' ?_⟩
    · rw [← Document.source_of_mem_snippets hs, hd]
    · rw [hname, name_eq_iff, Document.source_of_mem_snippets hs', hd]
      exact ⟨rfl, hstart⟩

theorem isSliceOf_of_mem_snippets {s : Snippet} (h : s ∈ d.snippets settings) :
    s.IsSliceOf d.text := by
  rcases List.mem_map.mp h with ⟨span, hspan, rfl⟩
  exact Document.isSliceOf_snippet (Chunk.within_of_mem_chunks hspan)

theorem isFoundOf_gather (hbytes : Text.byteLength d.text < Nat.pow 2 63) {found : List Metadata}
    (hfound : forall m, m ∈ found -> m.source = d.source ->
      IsChunkOf settings d m ∨ IsLeftOver settings ds d m) :
    IsFoundOf settings ds d found (gather found) := by
  refine ⟨hfound, Snippet.forall_mem_merge ?_ ?_⟩
  · intro a b htouch ha hb hsource
    rw [Snippet.join_source htouch] at hsource
    rcases ha hsource with ha | ⟨m, s, hm, hleft, hs, hcontains⟩
    · rcases hb ((Snippet.touches_iff.mp htouch).left.symm.trans hsource) with
        hb | ⟨m, s, hm, hleft, hs, hcontains⟩
      · exact Or.inl (Snippet.join_of_isSliceOf ha hb htouch).right
      · exact Or.inr ⟨m, s, hm, hleft, hs, Snippet.contains_join_right htouch hcontains⟩
    · exact Or.inr ⟨m, s, hm, hleft, hs, Snippet.contains_join_left htouch hcontains⟩
  · intro s hs hsource
    rcases List.mem_filterMap.mp hs with ⟨m, hm, hsnippet⟩
    rw [Metadata.source_of_snippet? hsnippet] at hsource
    rcases hfound m hm hsource with ⟨s', hs', rfl⟩ | hleft
    · have hslice := isSliceOf_of_mem_snippets hs'
      have hstart := Nat.le_trans Snippet.start_le_stop (Snippet.stop_le_of_isSliceOf hslice)
      rw [Document.snippet?_ofSnippet_of_mem hs' (Nat.lt_of_le_of_lt hstart hbytes)] at hsnippet
      cases hsnippet
      exact Or.inl hslice
    · exact Or.inr ⟨m, s, hm, hleft, hsnippet, Snippet.contains_self⟩

theorem Later.isFoundOf (h : Later d.source x y saved)
    (hx : x.Keeps fun _ m => m.source = d.source ->
      IsChunkOf settings d m ∨ IsLeftOver settings ds d m)
    (hbytes : Text.byteLength d.text < Nat.pow 2 63) {query : String} {limit : Nat}
    {results : List Snippet} (hresults : (y.find embed t query limit).1 = .ok results) :
    exists found, (y.nearest embed t query limit).1 = .ok found ∧
      IsFoundOf settings ds d found results := by
  have hy := (h.keeps hx fun s hs hsource => absurd hsource hs).left
  change (y.nearest embed t query limit).1.map gather = .ok results at hresults
  cases hnearest : (y.nearest embed t query limit).1 with
  | error e =>
      rw [hnearest] at hresults
      cases hresults
  | ok found =>
      rw [hnearest] at hresults
      cases hresults
      refine ⟨found, rfl, isFoundOf_gather hbytes fun m hm => ?_⟩
      rcases hy.nearest hnearest hm with ⟨_, hkept⟩
      exact hkept

end

/-- A document that is added again replaces itself where its chunks begin, and only there.  Under
the name of each chunk there is now this chunk, and under all other names what was there before.
As long as the document is not added once more, what is found of it are its chunks and what is left
over of its earlier versions, and each result without anything left over in it is a piece of the
new text.  So the document is replaced if chunks of it begin wherever those of its earlier versions
did. -/
theorem added_again_replaces_same_places {x : Index} {ds : List Document} (h : History x ds)
    {τ : Type} {embed : Embedder τ} (hembed : OneForEach embed) {t : τ} {d : Document} {n : Nat}
    (hadd : (x.add embed t d).1 = .ok n) (hbytes : Text.byteLength d.text < Nat.pow 2 63) :
    (forall key, (exists s, s ∈ d.snippets x.settings ∧ name s = key ∧
          (x.add embed t d).2.2.entries.lookup key = some (.ofSnippet s)) ∨
        (forall s, s ∈ d.snippets x.settings -> name s ≠ key) ∧
          (x.add embed t d).2.2.entries.lookup key = x.entries.lookup key) ∧
      forall y saved, Later d.source (x.add embed t d).2.2 y saved ->
        (forall (σ : Type) (embed : Embedder σ) (t : σ) (query : String) (limit : Nat)
          (results : List Snippet), (y.find embed t query limit).1 = .ok results ->
            exists found, (y.nearest embed t query limit).1 = .ok found ∧
              IsFoundOf x.settings ds d found results) ∧
        ((forall m, ¬ IsLeftOver x.settings ds d m) -> Replaced d y) := by
  have hkeeps := keeps_add h.keeps.left hembed hadd
  refine ⟨lookup_of_add hembed hadd, fun y saved hlater => ⟨?_, ?_⟩⟩
  · intro σ embed' t' query limit results hresults
    exact hlater.isFoundOf hkeeps hbytes hresults
  · intro hnone σ embed' t' query limit results hresults r hr hsource
    rcases hlater.isFoundOf hkeeps hbytes hresults with ⟨found, _, hfound⟩
    rcases hfound.pieces r hr hsource with hslice | ⟨m, _, _, hleft, _⟩
    · exact hslice
    · exact absurd hleft (hnone m)

def draft : Document :=
  ⟨"note", remark.text⟩

theorem snippets_draft : draft.snippets narrow = [⟨"note", 0, 1, 1, "xyz"⟩] := by
  rw [Document.snippets, draft, chunks_remark]
  decide +kernel

def drawerWithDraft : Index :=
  (drawer.add alike () draft).2.2

theorem settings_drawerWithDraft : drawerWithDraft.settings = narrow :=
  settings_add

theorem history_drawerWithDraft : History drawerWithDraft [draft] :=
  .added .opened alike () draft

def drawerWithLonger : Index :=
  (drawerWithDraft.add alike () note).2.2

theorem add_longer : (drawerWithDraft.add alike () note).1 = .ok 2 := by
  rw [Index.add, settings_drawerWithDraft, drawerWithDraft, Index.add]
  simp only [drawer, snippets_note, snippets_draft]
  decide +kernel

theorem collection_drawerWithLonger : drawerWithLonger.collection = some
    { dimension := 1
      vectors := [("note:0", [1]), ("note:0", [1]), ("note:3", [1])]
      snippets := [("note:0", .ofSnippet ⟨"note", 0, 1, 1, "ab"⟩),
        ("note:3", .ofSnippet ⟨"note", 3, 1, 1, "cd"⟩)] } := by
  rw [drawerWithLonger, Index.add, settings_drawerWithDraft, drawerWithDraft, Index.add]
  simp only [drawer, snippets_note, snippets_draft]
  rfl

/-- Nothing of the draft is left over in the note, also after another document was added. -/
theorem longer_replaces_draft :
    Replaced note (drawerWithLonger.add alike () remark).2.2 ∧
      drawerWithLonger.entries.lookup "note:0" = some (.ofSnippet ⟨"note", 0, 1, 1, "ab"⟩) ∧
      exists found results, (drawerWithLonger.find alike () "xyz" 5).1 = .ok results ∧
        IsFoundOf narrow [draft] note found results := by
  have hnone : forall m, ¬ IsLeftOver narrow [draft] note m := by
    rintro m ⟨d, s, hd, _, hs, _, hstarts⟩
    rw [List.mem_singleton.mp hd, snippets_draft] at hs
    rw [List.mem_singleton.mp hs, snippets_note] at hstarts
    exact hstarts ⟨"note", 0, 1, 1, "ab"⟩ (by decide) rfl
  rcases added_again_replaces_same_places history_drawerWithDraft oneForEach_alike add_longer
    (by decide +kernel) with ⟨hlookup, hlater⟩
  rw [settings_drawerWithDraft] at hlookup hlater
  refine ⟨(hlater _ _ (.added .now alike () (by decide))).right hnone, ?_, ?_⟩
  · rcases hlookup "note:0" with ⟨s, hs, hname, hstored⟩ | ⟨hother, _⟩
    · rw [snippets_note] at hs
      simp only [List.mem_cons, List.not_mem_nil, or_false] at hs
      rcases hs with rfl | rfl
      · exact hstored
      · exact absurd hname (by decide +kernel)
    · rw [snippets_note] at hother
      exact absurd (by decide +kernel) (hother ⟨"note", 0, 1, 1, "ab"⟩ (by decide))
  · have hnearest : exists found, (drawerWithLonger.nearest alike () "xyz" 5).1 = .ok found ∧ _ :=
      exists_nearest_perm collection_drawerWithLonger rfl rfl (by decide) (by decide)
    rcases hnearest with ⟨found, hnearest, _⟩
    have hfind : (drawerWithLonger.find alike () "xyz" 5).1 = .ok (gather found) :=
      congrArg (Except.map gather) hnearest
    rcases (hlater _ _ .now).left _ _ _ _ _ _ hfind with ⟨found', _, hfound⟩
    exact ⟨found', gather found, hfind, hfound⟩

/-!
# What is left over

A shorter version leaves a chunk of the one before it behind.
-/

theorem history_drawerWithNote : History drawerWithNote [note] :=
  .added .opened alike () note

def drawerWithShorter : Index :=
  (drawerWithNote.add alike () draft).2.2

theorem add_shorter : (drawerWithNote.add alike () draft).1 = .ok 1 := by
  rw [Index.add, settings_drawerWithNote, drawerWithNote, Index.add]
  simp only [drawer, snippets_note, snippets_draft]
  decide +kernel

theorem collection_drawerWithShorter : drawerWithShorter.collection = some
    { dimension := 1
      vectors := [("note:0", [1]), ("note:3", [1]), ("note:0", [1])]
      snippets := [("note:0", .ofSnippet ⟨"note", 0, 1, 1, "xyz"⟩),
        ("note:3", .ofSnippet ⟨"note", 3, 1, 1, "cd"⟩)] } := by
  rw [drawerWithShorter, Index.add, settings_drawerWithNote, drawerWithNote, Index.add]
  simp only [drawer, snippets_note, snippets_draft]
  rfl

theorem find_drawerWithShorter :
    (drawerWithShorter.find alike () "cd" 5).1 = .ok [⟨"note", 0, 1, 1, "xyzcd"⟩] := by
  have hgather : forall found,
      found ∈ ([.ofSnippet ⟨"note", 0, 1, 1, "xyz"⟩, .ofSnippet ⟨"note", 3, 1, 1, "cd"⟩,
        .ofSnippet ⟨"note", 0, 1, 1, "xyz"⟩] : List Metadata).permutations' ->
      gather found = [⟨"note", 0, 1, 1, "xyzcd"⟩] := by decide +kernel
  have hnearest : exists found, (drawerWithShorter.nearest alike () "cd" 5).1 = .ok found ∧ _ :=
    exists_nearest_perm collection_drawerWithShorter rfl rfl (by decide) (by decide)
  rcases hnearest with ⟨found, hnearest, hperm⟩
  rw [← hgather found (List.mem_permutations'.mpr hperm)]
  exact congrArg (Except.map gather) hnearest

/-- The end of the note is found after the draft was put in its place, merged with the draft. -/
theorem shorter_does_not_replace_note :
    History drawerWithNote [note] ∧ (drawerWithNote.add alike () draft).1 = .ok 1 ∧
      (drawerWithShorter.find alike () "cd" 5).1 = .ok [⟨"note", 0, 1, 1, "xyzcd"⟩] ∧
      ¬ Replaced draft drawerWithShorter := by
  refine ⟨history_drawerWithNote, add_shorter, find_drawerWithShorter, fun h => ?_⟩
  have hslice := h Unit alike () "cd" 5 _ find_drawerWithShorter _ List.mem_cons_self rfl
  have hstop := Snippet.stop_le_of_isSliceOf hslice
  revert hstop
  decide +kernel

end Index
end Colloquy
