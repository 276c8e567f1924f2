import Colloquy.Proofs.Index.Entries
import Colloquy.Proofs.Index.Retrieval
import Mathlib.Algebra.GroupWithZero.Nat

/-!
# Documents with different names

The chunks of documents with different names never get in each other's way: each has an entry of
its own, and as many entries are stored as were announced.
-/

namespace Colloquy
namespace Index

/-- The documents that were added one after the other to a new index, each with the number that
was answered. -/
inductive Additions (embed : Embedder τ) : Index -> List (Document × Nat) -> Prop where
  | opened {settings : Chunk.Settings} {onDisk : Bool} :
      Additions embed { settings := settings, onDisk := onDisk } []
  | added {x : Index} {adds : List (Document × Nat)} (h : Additions embed x adds) (t : τ)
      {d : Document} {n : Nat} (hadd : (x.add embed t d).1 = .ok n) :
      Additions embed (x.add embed t d).2.2 (adds ++ [(d, n)])

def chunksOf (settings : Chunk.Settings) (adds : List (Document × Nat)) : List Snippet :=
  adds.flatMap fun a => a.1.snippets settings

section

variable {settings : Chunk.Settings} {adds : List (Document × Nat)} {x : Index} {τ : Type}
  {embed : Embedder τ}

theorem chunksOf_concat {a : Document × Nat} :
    chunksOf settings (adds ++ [a]) = chunksOf settings adds ++ a.1.snippets settings := by
  rw [chunksOf, List.flatMap_append, List.flatMap_singleton]
  rfl

theorem names_nodup (hdistinct : (adds.map fun a => a.1.source).Nodup)
    (hstarts : forall a, a ∈ adds -> ((a.1.snippets settings).map Snippet.start).Nodup) :
    ((chunksOf settings adds).map name).Nodup := by
  rw [chunksOf, List.map_flatMap, List.nodup_flatMap]
  constructor
  · intro a ha
    refine List.Nodup.map_on ?_ (List.Nodup.of_map _ (hstarts a ha))
    intro s hs s' hs' hname
    exact List.inj_on_of_nodup_map (hstarts a ha) hs hs' (name_eq_iff.mp hname).right
  · refine (List.pairwise_map.mp hdistinct).imp ?_
    intro a b hne n hna hnb
    rcases List.mem_map.mp hna with ⟨s, hs, rfl⟩
    rcases List.mem_map.mp hnb with ⟨s', hs', hname⟩
    have hsource := (name_eq_iff.mp hname).left
    rw [Document.source_of_mem_snippets hs, Document.source_of_mem_snippets hs'] at hsource
    exact hne hsource.symm

/-- The induction over the documents: their chunks are stored one after the other. -/
theorem Additions.entries_eq (h : Additions embed x adds) (hembed : OneForEach embed)
    (hdistinct : (adds.map fun a => a.1.source).Nodup)
    (hstarts : forall a, a ∈ adds -> ((a.1.snippets x.settings).map Snippet.start).Nodup) :
    x.entries = (chunksOf x.settings adds).map entry := by
  induction h with
  | opened => rfl
  | @added x adds h t d n hadd ih =>
      rw [settings_add] at hstarts ⊢
      have hnames := names_nodup hdistinct hstarts
      rw [List.map_append] at hdistinct
      have hx := ih (List.nodup_append.mp hdistinct).left
        fun a ha => hstarts a (List.mem_append_left _ ha)
      rcases entries_add embed t x d with ⟨kept, _, hentries, hok⟩
      rw [hentries, (hok n hadd).right hembed, chunksOf_concat, List.map_append, ← hx]
      apply Collection.putAll_of_nodup
      rw [chunksOf_concat, List.map_append] at hnames
      rw [hx, List.map_map]
      exact hnames

theorem Additions.length_eq (h : Additions embed x adds) {a : Document × Nat} (ha : a ∈ adds) :
    a.2 = (a.1.snippets x.settings).length := by
  induction h with
  | opened => cases ha
  | @added x adds h t d n hadd ih =>
      rw [settings_add]
      rcases List.mem_append.mp ha with hold | hnew
      · exact ih hold
      · cases List.mem_singleton.mp hnew
        rcases entries_add embed t x d with ⟨_, _, _, hok⟩
        exact (hok n hadd).left

end

/-- No chunk takes the place of another.  When documents with different names have been added to a
new index, it has as many entries as the answers say; no two chunks have one name, and under the
name of each the index has its metadata, from which the chunk comes back as it was.  The chunks of
a document have to begin at different places, and the embedder to answer a vector for each. -/
theorem chunks_have_own_entries {τ : Type} {embed : Embedder τ} {x : Index}
    {adds : List (Document × Nat)} (h : Additions embed x adds) (hembed : OneForEach embed)
    (hdistinct : (adds.map fun a => a.1.source).Nodup)
    (hstarts : forall a, a ∈ adds -> ((a.1.snippets x.settings).map Snippet.start).Nodup)
    (hsmall : forall a, a ∈ adds -> forall s, s ∈ a.1.snippets x.settings ->
      s.start < Nat.pow 2 63) :
    x.size = (adds.map Prod.snd).sum ∧
      ((chunksOf x.settings adds).map name).Nodup ∧
      forall a, a ∈ adds -> a.2 = (a.1.snippets x.settings).length ∧
        forall s, s ∈ a.1.snippets x.settings -> exists c, x.collection = some c ∧
          c.get? (name s) = some (.ofSnippet s) ∧ (Metadata.ofSnippet s).snippet? = some s := by
  have hentries := h.entries_eq hembed hdistinct hstarts
  have hnames := names_nodup hdistinct hstarts
  refine ⟨?_, hnames, fun a ha => ⟨h.length_eq ha, fun s hs => ?_⟩⟩
  · rw [size_eq_length, hentries, List.length_map, chunksOf, List.length_flatMap]
    congr 1
    exact List.map_congr_left fun a ha => (h.length_eq ha).symm
  · have hstored : (name s, Metadata.ofSnippet s) ∈ x.entries := by
      rw [hentries]
      exact List.mem_map_of_mem (f := entry) (List.mem_flatMap.mpr ⟨a, ha, hs⟩)
    have hkeys : (x.entries.map Prod.fst).Nodup := by
      rw [hentries, List.map_map]
      exact hnames
    have hlookup := Collection.lookup_of_nodup hkeys hstored
    unfold entries at hlookup
    cases hc : x.collection with
    | none =>
        rw [hc] at hlookup
        cases hlookup
    | some c =>
        rw [hc] at hlookup
        exact ⟨c, rfl, hlookup, Document.snippet?_ofSnippet_of_mem hs (hsmall a ha s hs)⟩

def narrow : Chunk.Settings :=
  ⟨3, 0, by decide⟩

def note : Document :=
  ⟨"note", ['a', 'b', '\n', 'c', 'd', '\n']⟩

/-- A document whose name is that of a chunk. -/
def remark : Document :=
  ⟨"note:3", ['x', 'y', 'z', '\n']⟩

theorem snippets_note : note.snippets narrow =
    [⟨"note", 0, 1, 1, "ab"⟩, ⟨"note", 3, 1, 1, "cd"⟩] := by
  have hbreaks : Chunk.lineBreaks note.text = [⟨1, ⟨2, 3⟩⟩, ⟨1, ⟨5, 6⟩⟩] := by decide +kernel
  have hstop : Chunk.chunkStop narrow (.at note.text [⟨1, ⟨2, 3⟩⟩, ⟨1, ⟨5, 6⟩⟩] 0)
      (Chunk.candidates narrow (.at note.text [⟨1, ⟨2, 3⟩⟩, ⟨1, ⟨5, 6⟩⟩] 0)) = 3 := by
    rw [Chunk.candidates, Chunk.level, Chunk.Remaining.lineLevels_of_pairwise (by decide)]
    decide +kernel
  rw [Document.snippets, Chunk.chunks, hbreaks,
    Chunk.chunksFrom_eq_cons 3 ⟨0, 2⟩ (by decide) rfl hstop (by decide +kernel) (by decide),
    Chunk.chunksFrom_eq_cons 6 ⟨3, 5⟩ (by decide) rfl (by decide +kernel) (by decide +kernel)
      (by decide),
    Chunk.chunksFrom_eq_nil (by decide)]
  decide +kernel

theorem chunks_remark : Chunk.chunks narrow remark.text = [⟨0, 3⟩] := by
  have hbreaks : Chunk.lineBreaks remark.text = [⟨1, ⟨3, 4⟩⟩] := by decide +kernel
  rw [Chunk.chunks, hbreaks,
    Chunk.chunksFrom_eq_cons 4 ⟨0, 3⟩ (by decide) rfl (by decide +kernel) (by decide +kernel)
      (by decide),
    Chunk.chunksFrom_eq_nil (by decide)]

theorem snippets_remark : remark.snippets narrow = [⟨"note:3", 0, 1, 1, "xyz"⟩] := by
  rw [Document.snippets, chunks_remark]
  decide +kernel

theorem snippets_blank_narrow : blank.snippets narrow = [] := by
  rw [Document.snippets, Chunk.chunks, Chunk.chunksFrom_eq_nil (by decide)]
  rfl

theorem oneForEach_alike : OneForEach alike := by
  intro t texts vectors h
  cases h
  rw [List.length_map]

def drawer : Index :=
  { settings := narrow }

def drawerWithNote : Index :=
  (drawer.add alike () note).2.2

def drawerWithBoth : Index :=
  (drawerWithNote.add alike () remark).2.2

def drawerWithAll : Index :=
  (drawerWithBoth.add alike () blank).2.2

theorem settings_drawerWithNote : drawerWithNote.settings = narrow :=
  settings_add

theorem settings_drawerWithBoth : drawerWithBoth.settings = narrow :=
  settings_add.trans settings_drawerWithNote

theorem settings_drawerWithAll : drawerWithAll.settings = narrow :=
  settings_add.trans settings_drawerWithBoth

theorem additions_drawer :
    Additions alike drawerWithAll [(note, 2), (remark, 1), (blank, 0)] := by
  have hnote : (drawer.add alike () note).1 = .ok 2 := by
    rw [Index.add]
    simp only [drawer, snippets_note]
    decide +kernel
  have hremark : (drawerWithNote.add alike () remark).1 = .ok 1 := by
    rw [Index.add, settings_drawerWithNote, drawerWithNote, Index.add]
    simp only [drawer, snippets_note, snippets_remark]
    decide +kernel
  have hblank : (drawerWithBoth.add alike () blank).1 = .ok 0 := by
    rw [Index.add, settings_drawerWithBoth]
    simp only [snippets_blank_narrow]
    rfl
  exact ((Additions.opened.added () hnote).added () hremark).added () hblank

/-- A colon in the name of a document does not confuse its chunks with those of another. -/
theorem drawer_has_own_entries :
    drawerWithAll.size = 3 ∧ name ⟨"note", 3, 1, 1, "cd"⟩ = "note:3" ∧
      name ⟨"note:3", 0, 1, 1, "xyz"⟩ = "note:3:0" ∧
      (exists c, drawerWithAll.collection = some c ∧
        c.get? "note:3" = some (.ofSnippet ⟨"note", 3, 1, 1, "cd"⟩)) ∧
      exists c, drawerWithAll.collection = some c ∧
        c.get? "note:3:0" = some (.ofSnippet ⟨"note:3", 0, 1, 1, "xyz"⟩) := by
  have hchunks : forall a, a ∈ [(note, 2), (remark, 1), (blank, 0)] ->
      ((a.1.snippets drawerWithAll.settings).map Snippet.start).Nodup ∧
        forall s, s ∈ a.1.snippets drawerWithAll.settings -> s.start < Nat.pow 2 63 := by
    rw [settings_drawerWithAll]
    simp only [List.forall_mem_cons, snippets_note, snippets_remark, snippets_blank_narrow]
    decide +kernel
  rcases chunks_have_own_entries additions_drawer oneForEach_alike (by decide +kernel)
    (fun a ha => (hchunks a ha).left) (fun a ha => (hchunks a ha).right) with ⟨hsize, _, hstored⟩
  rw [settings_drawerWithAll] at hstored
  have hnote := (hstored (note, 2) (by simp)).right ⟨"note", 3, 1, 1, "cd"⟩
  have hremark := (hstored (remark, 1) (by simp)).right ⟨"note:3", 0, 1, 1, "xyz"⟩
  rw [snippets_note] at hnote
  rw [snippets_remark] at hremark
  rcases hnote (by decide) with ⟨c, hc, hget, _⟩
  rcases hremark (by decide) with ⟨c', hc', hget', _⟩
  exact ⟨hsize, by decide +kernel, by decide +kernel, ⟨c, hc, hget⟩, c', hc', hget'⟩

end Index
end Colloquy
