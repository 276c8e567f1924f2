import Colloquy.Index
import Colloquy.Proofs.Chunk.Stretches

/-!
# What an index stores

Whatever becomes of an index, it stores chunks of the documents that were added to it, and a
search finds nothing else.  Small numbers come back from the metadata as they were stored.
-/

namespace Colloquy

namespace Metadata

theorem unsigned?_ofNat {bits n : Nat} (hsigned : n < Nat.pow 2 63) (hbits : n < Nat.pow 2 bits) :
    unsigned? bits (Int64.ofNat n) = some n := by
  rw [unsigned?, Int64.toInt_ofNat_of_lt hsigned]
  exact if_pos hbits

theorem snippet?_ofSnippet {s : Snippet} (hstart : s.start < Nat.pow 2 63)
    (hfirst : s.firstPage < Nat.pow 2 32) (hlast : s.lastPage < Nat.pow 2 32) :
    (ofSnippet s).snippet? = some s := by
  have hstart' : s.start < Nat.pow 2 64 := Nat.lt_trans hstart (by decide)
  have hfirst' : s.firstPage < Nat.pow 2 63 := Nat.lt_trans hfirst (by decide)
  have hlast' : s.lastPage < Nat.pow 2 63 := Nat.lt_trans hlast (by decide)
  rw [snippet?, ofSnippet, unsigned?_ofNat hstart hstart', unsigned?_ofNat hfirst' hfirst,
    unsigned?_ofNat hlast' hlast]
  rfl

theorem source_of_snippet? {m : Metadata} {s : Snippet} (h : m.snippet? = some s) :
    s.source = m.source := by
  unfold snippet? at h
  rcases Option.bind_eq_some_iff.mp h with ⟨_, _, h⟩
  rcases Option.bind_eq_some_iff.mp h with ⟨_, _, h⟩
  rcases Option.bind_eq_some_iff.mp h with ⟨_, _, h⟩
  cases h
  rfl

def IsFrom (ds : List Document) (m : Metadata) : Prop :=
  exists d s, d ∈ ds ∧ Chunk.Span.Within d.text s ∧ m = ofSnippet (d.snippet s)

theorem IsFrom.concat {ds : List Document} {m : Metadata} (h : m.IsFrom ds) (d : Document) :
    m.IsFrom (ds ++ [d]) := by
  rcases h with ⟨d', s, hd', hs, hm⟩
  exact ⟨d', s, List.mem_append_left _ hd', hs, hm⟩

end Metadata

/-!
# Collections

What holds of all that is stored holds of all that a search answers.
-/

namespace Collection

def Stores (p : Metadata -> Prop) (c : Collection) : Prop :=
  forall name m, (name, m) ∈ c.snippets -> p m

variable {p q : Metadata -> Prop} {c c' : Collection} {m : Metadata} {name : String}

theorem Stores.mono (h : c.Stores p) (himp : forall m, p m -> q m) : c.Stores q :=
  fun name m hm => himp m (h name m hm)

theorem mem_put {entries : List (String × Metadata)} {entry : String × Metadata}
    (h : entry ∈ put name m entries) : entry.2 = m ∨ entry ∈ entries := by
  induction entries with
  | nil =>
      cases List.mem_singleton.mp h
      exact Or.inl rfl
  | cons old rest ih =>
      unfold put at h
      split at h
      · rcases List.mem_cons.mp h with rfl | hrest
        · exact Or.inl rfl
        · exact Or.inr (List.mem_cons_of_mem _ hrest)
      · rcases List.mem_cons.mp h with rfl | hrest
        · exact Or.inr List.mem_cons_self
        · exact (ih hrest).imp_right (List.mem_cons_of_mem _)

theorem insert_eq_ok_iff {v : Embedding} : c.insert name v m = .ok c' <->
    v.length = c.dimension ∧ v.isFinite = true ∧ c' = { c with
      vectors := c.vectors ++ [(name, v)]
      snippets := put name m c.snippets } := by
  unfold insert check
  simp only [beq_iff_eq, bind, Except.bind, pure, Except.pure, throw, throwThe, MonadExceptOf.throw]
  by_cases hlength : v.length = c.dimension
  · by_cases hfinite : v.isFinite = true
    · simp [hlength, hfinite, eq_comm]
    · simp [hlength, hfinite]
  · simp [hlength]

theorem snippets_of_insert {v : Embedding} (h : c.insert name v m = .ok c') :
    c'.snippets = put name m c.snippets := by
  rcases insert_eq_ok_iff.mp h with ⟨_, _, rfl⟩
  rfl

theorem Stores.insert {v : Embedding} (h : c.Stores p) (hm : p m)
    (hinsert : c.insert name v m = .ok c') : c'.Stores p := by
  intro name' m' hmem
  rw [snippets_of_insert hinsert] at hmem
  rcases mem_put hmem with rfl | hold
  · exact hm
  · exact h name' m' hold

theorem stores_of_create {dimension : Nat} (h : create dimension = .ok c) : c.Stores p := by
  unfold create at h
  split at h
  · cases h
  · cases h
    intro name m hm
    cases hm

theorem Stores.compact (h : c.Stores p) : c.compact.Stores p :=
  h

theorem Stores.get? (h : c.Stores p) (hget : c.get? name = some m) : p m := by
  rcases List.lookup_eq_some_iff.mp hget with ⟨front, back, hsnippets, _⟩
  apply h name
  rw [hsnippets]
  exact List.mem_append_right _ List.mem_cons_self

theorem exists_near_of_search {v : Embedding} {limit : Nat} {found : List Metadata}
    (h : c.search v limit = .ok found) :
    exists near : List (String × Embedding), near.length <= limit ∧
      (c.vectors.length <= limit -> near.Perm c.vectors) ∧
      found = near.filterMap fun entry => c.get? entry.1 := by
  unfold search at h
  cases hcheck : c.check v with
  | error e =>
      rw [hcheck] at h
      cases h
  | ok =>
      rw [hcheck] at h
      cases h
      refine ⟨_, List.length_take_le _ _, fun hall => ?_, rfl⟩
      rw [List.take_of_length_le]
      · exact List.mergeSort_perm _ _
      · rw [List.length_mergeSort]
        exact hall

theorem exists_search_perm {v : Embedding} {limit : Nat} (hcheck : c.check v = .ok ())
    (hlimit : c.vectors.length <= limit) :
    exists found, c.search v limit = .ok found ∧
      found.Perm (c.vectors.filterMap fun entry => c.get? entry.1) := by
  have hsearch : exists found, c.search v limit = .ok found := by
    unfold search
    rw [hcheck]
    exact ⟨_, rfl⟩
  rcases hsearch with ⟨found, hsearch⟩
  rcases exists_near_of_search hsearch with ⟨near, _, hperm, rfl⟩
  exact ⟨_, hsearch, (hperm hlimit).filterMap _⟩

theorem Stores.search {v : Embedding} {limit : Nat} {found : List Metadata} (h : c.Stores p)
    (hsearch : c.search v limit = .ok found) :
    found.length <= limit ∧ forall m, m ∈ found -> p m := by
  rcases exists_near_of_search hsearch with ⟨near, hlimit, _, rfl⟩
  refine ⟨Nat.le_trans (List.length_filterMap_le _ _) hlimit, ?_⟩
  intro m hm
  rcases List.mem_filterMap.mp hm with ⟨entry, _, hget⟩
  exact h.get? hget

end Collection

/-!
# Indexes

An index and its saved copy only ever get chunks of the documents that were added.
-/

namespace Index

/-- What can become of an index: documents are added, whatever the embedder answers, and the
index is saved and opened again. -/
inductive History : Index -> List Document -> Prop where
  | opened {settings : Chunk.Settings} {onDisk : Bool} :
      History { settings := settings, onDisk := onDisk } []
  | added {x : Index} {ds : List Document} (h : History x ds) {τ : Type} (embed : Embedder τ)
      (t : τ) (d : Document) : History (x.add embed t d).2.2 (ds ++ [d])
  | saved {x : Index} {ds : List Document} (h : History x ds) : History x.save ds
  | reopened {x : Index} {ds : List Document} (h : History x ds) : History x.reopen ds

structure Stores (p : Metadata -> Prop) (x : Index) : Prop where
  collection : forall c, x.collection = some c -> c.Stores p
  saved : forall c, x.saved = some c -> c.Stores p

variable {p q : Metadata -> Prop} {x : Index} {τ : Type} {embed : Embedder τ} {t : τ}

theorem settings_store {snippets : List Snippet} {vectors : List Embedding} :
    (x.store snippets vectors).2.settings = x.settings := by
  unfold store
  split
  · rfl
  · split
    · rfl
    · rfl

theorem settings_add {d : Document} : (x.add embed t d).2.2.settings = x.settings := by
  unfold add
  dsimp only
  split
  · rfl
  · split
    · rfl
    · exact settings_store

theorem add_of_snippets_nil {d : Document} (h : d.snippets x.settings = []) :
    (x.add embed t d).2.2 = x := by
  rw [add, h]
  rfl

theorem Stores.mono (h : x.Stores p) (himp : forall m, p m -> q m) : x.Stores q where
  collection := fun c hc => (h.collection c hc).mono himp
  saved := fun c hc => (h.saved c hc).mono himp

theorem stores_storeAll {c : Collection} {entries : List (Snippet × Embedding)} (h : c.Stores p)
    (hentries : forall s v, (s, v) ∈ entries -> p (.ofSnippet s)) :
    (storeAll c entries).2.Stores p := by
  induction entries generalizing c with
  | nil => exact h
  | cons entry rest ih =>
      rcases entry with ⟨s, v⟩
      unfold storeAll
      split
      · exact h
      · rename_i c' hinsert
        refine ih (h.insert (hentries s v List.mem_cons_self) hinsert) ?_
        intro s' v' hmem
        exact hentries s' v' (List.mem_cons_of_mem _ hmem)

theorem stores_of_ensure {dimension : Nat} {c : Collection} (h : x.Stores p)
    (hensure : x.ensure dimension = .ok c) : c.Stores p := by
  unfold ensure at hensure
  split at hensure
  · rename_i c' hc'
    cases hensure
    exact h.collection _ hc'
  · split at hensure
    · rename_i c' hcreate
      cases hensure
      exact Collection.stores_of_create hcreate
    · cases hensure

theorem Stores.store (h : x.Stores p) {snippets : List Snippet} {vectors : List Embedding}
    (hsnippets : forall s, s ∈ snippets -> p (.ofSnippet s)) :
    (x.store snippets vectors).2.Stores p := by
  unfold Index.store
  split
  · exact h
  · split
    · exact h
    · rename_i c hensure
      refine ⟨?_, h.saved⟩
      intro c' hc'
      cases hc'
      refine stores_storeAll (stores_of_ensure h hensure) ?_
      intro s v hmem
      exact hsnippets s (List.of_mem_zip hmem).left

theorem Stores.add (h : x.Stores p) {d : Document}
    (hd : forall s, Chunk.Span.Within d.text s -> p (.ofSnippet (d.snippet s))) :
    (x.add embed t d).2.2.Stores p := by
  unfold Index.add
  dsimp only
  split
  · exact h
  · split
    · exact h
    · refine h.store ?_
      intro s hs
      rcases List.mem_map.mp hs with ⟨span, hspan, rfl⟩
      exact hd span (Chunk.within_of_mem_chunks hspan)

/-- The induction over the history of an index. -/
theorem History.stores {ds : List Document} (h : History x ds) :
    x.Stores (Metadata.IsFrom ds) := by
  induction h with
  | opened => exact ⟨fun _ hc => (nomatch hc), fun _ hc => (nomatch hc)⟩
  | added h embed t d ih =>
      refine (ih.mono fun m hm => hm.concat d).add ?_
      intro s hs
      exact ⟨d, s, List.mem_append_right _ List.mem_cons_self, hs, rfl⟩
  | saved h ih =>
      unfold save
      split
      · refine ⟨ih.collection, ?_⟩
        intro c hc
        rcases Option.map_eq_some_iff.mp hc with ⟨c', hc', rfl⟩
        exact (ih.collection c' hc').compact
      · exact ih
  | reopened h ih =>
      refine ⟨?_, ih.saved⟩
      intro c hc
      unfold reopen at hc
      dsimp only at hc
      split at hc
      · exact ih.saved c hc
      · cases hc

theorem search_of_nearest {query : String} {limit : Nat} {found : List Metadata}
    (h : (x.nearest embed t query limit).1 = .ok found) :
    found = [] ∨ exists c v, x.collection = some c ∧ c.search v limit = .ok found := by
  unfold Index.nearest at h
  split at h
  · exact Or.inl (Except.ok.inj h).symm
  · rename_i c hc
    split at h
    · exact Or.inl (Except.ok.inj h).symm
    · split at h
      · cases h
      · cases h
      · split at h
        · cases h
        · rename_i hsearch
          cases h
          exact Or.inr ⟨c, _, hc, hsearch⟩

theorem exists_nearest_perm {query : String} {limit : Nat} {c : Collection} {v : Embedding}
    {rest : List Embedding} {t' : τ} (hc : x.collection = some c)
    (hembed : embed t [query] = (.ok (v :: rest), t')) (hcheck : c.check v = .ok ())
    (hpos : 0 < limit) (hlimit : c.vectors.length <= limit) :
    exists found, (x.nearest embed t query limit).1 = .ok found ∧
      found.Perm (c.vectors.filterMap fun entry => c.get? entry.1) := by
  rcases Collection.exists_search_perm hcheck hlimit with ⟨found, hsearch, hperm⟩
  refine ⟨found, ?_, hperm⟩
  have hasked : ¬ (limit == 0) = true := by
    rw [beq_iff_eq]
    exact Nat.ne_of_gt hpos
  unfold Index.nearest
  rw [hc]
  dsimp only
  rw [if_neg hasked, hembed]
  dsimp only
  rw [hsearch]

theorem Stores.nearest (h : x.Stores p) {query : String} {limit : Nat} {found : List Metadata}
    (hfound : (x.nearest embed t query limit).1 = .ok found) :
    found.length <= limit ∧ forall m, m ∈ found -> p m := by
  rcases search_of_nearest hfound with rfl | ⟨c, v, hc, hsearch⟩
  · exact ⟨Nat.zero_le _, fun _ hm => (List.not_mem_nil hm).elim⟩
  · exact (h.collection c hc).search hsearch

end Index
end Colloquy
