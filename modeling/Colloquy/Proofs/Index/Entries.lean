import Colloquy.Proofs.Index.Stored
import Colloquy.Proofs.Text.Lines
import Mathlib.Data.List.Nodup

/-!
# Entries of an index

A snippet is stored under a name made of its document and its place, and two snippets have one
name only if they begin at one place of one document.  Adding a document puts its chunks under
their names and leaves all other entries alone.
-/

namespace Colloquy

/-!
# Names

A name is the source of a chunk, a colon and the offset.  The offset has no colon, so the last
colon of a name is this one, whatever the source is called.
-/

namespace Index

theorem colon_notMem_digits (n : Nat) : ':' ∉ (toString n).toList :=
  fun h => absurd (Text.isDigit_of_mem_digits h) (by decide)

theorem eq_of_digits {m n : Nat} (h : (toString m).toList = (toString n).toList) : m = n := by
  rw [Nat.toString_eq_repr, Nat.toString_eq_repr, Nat.toList_repr, Nat.toList_repr] at h
  rw [← Nat.ofDigitChars_ten_toDigits (n := m), h, Nat.ofDigitChars_ten_toDigits]

theorem eq_of_append_colon {front front' back back' : List Char} (hback : ':' ∉ back)
    (hback' : ':' ∉ back') (h : front ++ ':' :: back = front' ++ ':' :: back') :
    front = front' ∧ back = back' := by
  rcases List.append_eq_append_iff.mp h with ⟨more, hfront, hrest⟩ | ⟨more, hfront, hrest⟩
  · cases more with
    | nil =>
        rw [List.append_nil] at hfront
        exact ⟨hfront.symm, (List.cons.inj hrest).right⟩
    | cons c more =>
        rw [(List.cons.inj hrest).right] at hback
        exact absurd (List.mem_append_right more List.mem_cons_self) hback
  · cases more with
    | nil =>
        rw [List.append_nil] at hfront
        exact ⟨hfront, (List.cons.inj hrest).right.symm⟩
    | cons c more =>
        rw [(List.cons.inj hrest).right] at hback'
        exact absurd (List.mem_append_right more List.mem_cons_self) hback'

/-- A name tells the document and the place, also if there are colons and digits in the name of
the document. -/
theorem name_eq_iff {a b : Snippet} :
    name a = name b <-> a.source = b.source ∧ a.start = b.start := by
  constructor
  · intro h
    have hlist := congrArg String.toList h
    simp only [name, String.toList_append, List.append_assoc] at hlist
    rcases eq_of_append_colon (colon_notMem_digits a.start) (colon_notMem_digits b.start) hlist
      with ⟨hsource, hstart⟩
    exact ⟨String.toList_inj.mp hsource, eq_of_digits hstart⟩
  · rintro ⟨hsource, hstart⟩
    rw [name, name, hsource, hstart]

def entry (s : Snippet) : String × Metadata :=
  (name s, .ofSnippet s)

end Index

/-!
# Lists of entries

An entry is put in the place of the one with its name, or at the end if there is none.
-/

namespace Collection

def putAll (snippets : List Snippet) (entries : List (String × Metadata)) :
    List (String × Metadata) :=
  snippets.foldl (fun entries s => put (Index.name s) (.ofSnippet s) entries) entries

section

variable {entries : List (String × Metadata)} {snippets : List Snippet} {name name' : String}
  {m : Metadata} {s : Snippet}

theorem putAll_cons : putAll (s :: snippets) entries =
    putAll snippets (put (Index.name s) (.ofSnippet s) entries) :=
  rfl

theorem lookup_cons_eq_ite : ((name, m) :: entries).lookup name' =
    if name' = name then some m else entries.lookup name' := by
  rw [List.lookup_cons]
  by_cases h : name' = name
  · simp [h]
  · rw [if_neg h, beq_false_of_ne h]

theorem lookup_put : (put name m entries).lookup name' =
    if name' = name then some m else entries.lookup name' := by
  induction entries with
  | nil => exact lookup_cons_eq_ite
  | cons old rest ih =>
      rcases old with ⟨n, v⟩
      unfold put
      split
      · rename_i hold
        rw [lookup_cons_eq_ite, lookup_cons_eq_ite, eq_of_beq hold]
        by_cases h : name' = name
        · rw [if_pos h, if_pos h]
        · rw [if_neg h, if_neg h, if_neg h]
      · rename_i hold
        rw [lookup_cons_eq_ite, lookup_cons_eq_ite, ih]
        by_cases h : name' = n
        · have hne : name' ≠ name := fun heq => hold (beq_iff_eq.mpr (h.symm.trans heq))
          rw [if_pos h, if_neg hne, if_pos h]
        · rw [if_neg h, if_neg h]

theorem lookup_putAll (snippets : List Snippet) (entries : List (String × Metadata))
    (name : String) :
    (exists s, s ∈ snippets ∧ Index.name s = name ∧
        (putAll snippets entries).lookup name = some (.ofSnippet s)) ∨
      (forall s, s ∈ snippets -> Index.name s ≠ name) ∧
        (putAll snippets entries).lookup name = entries.lookup name := by
  induction snippets generalizing entries with
  | nil => exact Or.inr ⟨fun _ hs => (List.not_mem_nil hs).elim, rfl⟩
  | cons s rest ih =>
      rw [putAll_cons]
      rcases ih (put (Index.name s) (.ofSnippet s) entries) with
        ⟨s', hs', hname, hlookup⟩ | ⟨hnone, hlookup⟩
      · exact Or.inl ⟨s', List.mem_cons_of_mem s hs', hname, hlookup⟩
      · rw [lookup_put] at hlookup
        by_cases h : name = Index.name s
        · rw [if_pos h] at hlookup
          exact Or.inl ⟨s, List.mem_cons_self, h.symm, hlookup⟩
        · rw [if_neg h] at hlookup
          exact Or.inr ⟨List.forall_mem_cons.mpr ⟨fun heq => h heq.symm, hnone⟩, hlookup⟩

theorem put_of_notMem (h : name ∉ entries.map Prod.fst) :
    put name m entries = entries ++ [(name, m)] := by
  induction entries with
  | nil => rfl
  | cons old rest ih =>
      rw [List.map_cons, List.mem_cons, not_or] at h
      have hold : ¬ (old.1 == name) = true := by
        rw [beq_iff_eq]
        exact fun heq => h.left heq.symm
      rw [put, if_neg hold, ih h.right]
      rfl

theorem putAll_of_nodup (h : (entries.map Prod.fst ++ snippets.map Index.name).Nodup) :
    putAll snippets entries = entries ++ snippets.map Index.entry := by
  induction snippets generalizing entries with
  | nil => exact (List.append_nil entries).symm
  | cons s rest ih =>
      have hnew : Index.name s ∉ entries.map Prod.fst := fun hold =>
        (List.nodup_append.mp h).right.right _ hold _ List.mem_cons_self rfl
      rw [putAll_cons, put_of_notMem hnew, ih, List.append_assoc]
      · rfl
      · rw [List.map_append, List.append_assoc]
        exact h

theorem lookup_of_nodup (h : (entries.map Prod.fst).Nodup) (hmem : (name, m) ∈ entries) :
    entries.lookup name = some m := by
  rcases List.append_of_mem hmem with ⟨front, back, rfl⟩
  refine List.lookup_eq_some_iff.mpr ⟨front, back, rfl, fun old hold => ?_⟩
  rw [List.map_append, List.nodup_append] at h
  rw [bne_iff_ne]
  exact (h.right.right _ (List.mem_map_of_mem hold) _ List.mem_cons_self).symm

end

end Collection

/-!
# Chunks of documents
-/

namespace Document

variable {d : Document} {settings : Chunk.Settings} {s : Snippet}

theorem source_of_mem_snippets (h : s ∈ d.snippets settings) : s.source = d.source := by
  rcases List.mem_map.mp h with ⟨span, _, rfl⟩
  rfl

theorem snippet?_ofSnippet_of_mem (h : s ∈ d.snippets settings) (hstart : s.start < Nat.pow 2 63) :
    (Metadata.ofSnippet s).snippet? = some s := by
  rcases List.mem_map.mp h with ⟨span, _, rfl⟩
  exact Metadata.snippet?_ofSnippet hstart (Nat.mod_lt _ (by decide)) (Nat.mod_lt _ (by decide))

end Document

/-!
# Documents that are added

Each chunk is stored with the vector at its place.  If one of the vectors does not fit, only
the chunks before it are stored.
-/

/-- The embedder answers one vector for each text. -/
def OneForEach (embed : Embedder τ) : Prop :=
  forall t texts vectors, (embed t texts).1 = .ok vectors -> vectors.length = texts.length

namespace Index

open Collection (putAll)

def entries (x : Index) : List (String × Metadata) :=
  (x.collection.map Collection.snippets).getD []

def vectors (x : Index) : List (String × Embedding) :=
  (x.collection.map Collection.vectors).getD []

section

variable {x : Index} {τ : Type} {embed : Embedder τ} {t : τ} {d : Document}

theorem size_eq_length : x.size = x.entries.length := by
  unfold size entries
  cases x.collection with
  | none => rfl
  | some c => rfl

theorem exists_stored (c : Collection) (pairs : List (Snippet × Embedding)) :
    exists kept, kept <+: pairs ∧
      (storeAll c pairs).2.vectors = c.vectors ++ kept.map (fun p => (name p.1, p.2)) ∧
      (storeAll c pairs).2.snippets = putAll (kept.map Prod.fst) c.snippets ∧
      ((storeAll c pairs).1 = .ok () -> kept = pairs) := by
  induction pairs generalizing c with
  | nil => exact ⟨[], List.prefix_rfl, (List.append_nil _).symm, rfl, fun _ => rfl⟩
  | cons pair rest ih =>
      rcases pair with ⟨s, v⟩
      unfold storeAll
      split
      · exact ⟨[], List.nil_prefix, (List.append_nil _).symm, rfl, fun h => nomatch h⟩
      · rename_i c' hinsert
        rcases Collection.insert_eq_ok_iff.mp hinsert with ⟨_, _, rfl⟩
        rcases ih _ with ⟨kept, hprefix, hvectors, hsnippets, hall⟩
        refine ⟨(s, v) :: kept, List.prefix_cons_inj _ |>.mpr hprefix, ?_, hsnippets, fun h => ?_⟩
        · rw [hvectors, List.append_assoc]
          rfl
        · rw [hall h]

theorem holds_of_ensure {dimension : Nat} {c : Collection} (h : x.ensure dimension = .ok c) :
    c.snippets = x.entries ∧ c.vectors = x.vectors := by
  unfold ensure at h
  split at h
  · rename_i c' hc'
    cases h
    rw [entries, vectors, hc']
    exact ⟨rfl, rfl⟩
  · rename_i hnone
    split at h
    · rename_i c' hcreate
      cases h
      rw [entries, vectors, hnone]
      unfold Collection.create at hcreate
      split at hcreate
      · cases hcreate
      · cases hcreate
        exact ⟨rfl, rfl⟩
    · cases h

theorem exists_stored_store (snippets : List Snippet) (vectors : List Embedding) :
    exists kept, kept <+: snippets.zip vectors ∧
      (x.store snippets vectors).2.vectors = x.vectors ++ kept.map (fun p => (name p.1, p.2)) ∧
      (x.store snippets vectors).2.entries = putAll (kept.map Prod.fst) x.entries ∧
      ((x.store snippets vectors).1 = .ok () -> kept = snippets.zip vectors) := by
  unfold store
  split
  · exact ⟨[], List.nil_prefix, (List.append_nil _).symm, rfl, fun _ => List.zip_nil_right.symm⟩
  · rename_i v rest
    split
    · exact ⟨[], List.nil_prefix, (List.append_nil _).symm, rfl, fun h => nomatch h⟩
    · rename_i c hensure
      rcases holds_of_ensure hensure with ⟨hsnippets, hvectors⟩
      rw [← hsnippets, ← hvectors]
      exact exists_stored c (snippets.zip (v :: rest))

theorem entries_store (snippets : List Snippet) (vectors : List Embedding) :
    exists kept, kept ⊆ snippets ∧ (x.store snippets vectors).2.entries = putAll kept x.entries ∧
      ((x.store snippets vectors).1 = .ok () -> vectors.length = snippets.length ->
        kept = snippets) := by
  rcases exists_stored_store (x := x) snippets vectors with ⟨kept, hkept, _, hentries, hall⟩
  refine ⟨kept.map Prod.fst, fun s hs => ?_, hentries, fun h hlength => ?_⟩
  · rcases List.mem_map.mp hs with ⟨pair, hpair, rfl⟩
    exact (List.of_mem_zip (hkept.subset hpair)).left
  · rw [hall h, List.map_fst_zip (Nat.le_of_eq hlength.symm)]

theorem entries_add (embed : Embedder τ) (t : τ) (x : Index) (d : Document) :
    exists kept, kept ⊆ d.snippets x.settings ∧
      (x.add embed t d).2.2.entries = putAll kept x.entries ∧
      forall n, (x.add embed t d).1 = .ok n -> n = (d.snippets x.settings).length ∧
        (OneForEach embed -> kept = d.snippets x.settings) := by
  unfold add
  dsimp only
  split
  · rename_i hempty
    have hnone := List.isEmpty_iff.mp hempty
    refine ⟨[], List.nil_subset _, rfl, fun n hn => ?_⟩
    cases hn
    rw [hnone]
    exact ⟨rfl, fun _ => rfl⟩
  · split
    · exact ⟨[], List.nil_subset _, rfl, fun n hn => nomatch hn⟩
    · rename_i vectors t' hembed
      rcases entries_store (x := x) (d.snippets x.settings) vectors with
        ⟨kept, hsub, hentries, hall⟩
      refine ⟨kept, hsub, hentries, fun n hn => ?_⟩
      cases hstore : (x.store (d.snippets x.settings) vectors).1 with
      | error e =>
          rw [hstore] at hn
          cases hn
      | ok =>
          rw [hstore] at hn
          cases hn
          refine ⟨rfl, fun hone => hall hstore ?_⟩
          have hlength := hone t _ vectors (congrArg Prod.fst hembed)
          rw [hlength, List.length_map]

end

end Index
end Colloquy
