import Colloquy.Proofs.Index.Additions
import Colloquy.Provider.OpenAi

/-!
# Labelled vectors

A server labels its vectors with the places of their texts and may answer them in any order.
They are sorted by their labels before they are stored, so that each chunk of a document gets its
own, and an answer with too few or too many leaves the index as it was.
-/

namespace Colloquy
namespace OpenAi

/-- Each of the first numbers is the label of one vector. -/
def LabelsAll (count : Nat) (items : List Labelled) : Prop :=
  (items.map Prod.fst).Perm (List.range count)

def request (c : OpenAi) (url : Url) (texts : List String) : Http.Request where
  url := url
  authorization := some c.authorization
  body := .object
    [("model", .string c.embeddingModel), ("input", .array (texts.map Json.string))]

def Answers (c : OpenAi) (send : Http.Transport τ) (t : τ) (texts : List String)
    (items : List Labelled) (t' : τ) : Prop :=
  exists url r, c.address "embeddings" = .ok url ∧
    send t (c.request url texts) = (some r, t') ∧ r.isSuccess = true ∧
    (Json.ofBytes? r.body).bind data? = some items

def miscount (actual expected : Nat) : ServiceError :=
  .model ("OpenAI returned " ++ toString actual ++ " embeddings for " ++ toString expected ++
    " inputs")

section

variable {count : Nat} {items items' : List Labelled} {i : Nat} {v : Embedding}

theorem LabelsAll.length_eq (h : LabelsAll count items) : items.length = count := by
  have hlength := List.Perm.length_eq h
  rw [List.length_map, List.length_range] at hlength
  exact hlength

theorem LabelsAll.perm (h : LabelsAll count items) (hperm : items.Perm items') :
    LabelsAll count items' :=
  (hperm.symm.map _).trans h

theorem labels_mergeSort (h : LabelsAll count items) :
    (items.mergeSort fun a b => a.1 <= b.1).map Prod.fst = List.range count := by
  have hsorted : (items.mergeSort fun a b => a.1 <= b.1).Pairwise fun a b => a.1 <= b.1 := by
    refine (List.pairwise_mergeSort (fun a b c hab hbc => ?_) (fun a b => ?_) items).imp
      fun hab => of_decide_eq_true hab
    · exact decide_eq_true (Nat.le_trans (of_decide_eq_true hab) (of_decide_eq_true hbc))
    · rw [Bool.or_eq_true, decide_eq_true_eq, decide_eq_true_eq]
      exact Nat.le_total a.1 b.1
  exact List.Perm.eq_of_pairwise (fun a b _ _ => Nat.le_antisymm) (List.pairwise_map.mpr hsorted)
    List.pairwise_le_range (((List.mergeSort_perm items _).map _).trans h)

theorem getElem?_inOrder (h : LabelsAll count items) :
    (inOrder items)[i]? = some v <-> (i, v) ∈ items := by
  have hlabels := labels_mergeSort h
  rw [← (List.mergeSort_perm items fun a b => a.1 <= b.1).mem_iff, inOrder]
  generalize (items.mergeSort fun a b => a.1 <= b.1) = sorted at hlabels
  -- the label of an item is its place in the sorted list
  have hplace {k : Nat} {item : Labelled} (hk : sorted[k]? = some item) : item.1 = k := by
    have hlabel : (List.range count)[k]? = some item.1 := by
      rw [← hlabels, List.getElem?_map, hk]
      rfl
    rcases List.getElem?_eq_some_iff.mp hlabel with ⟨hlt, hrange⟩
    rw [← hrange, List.getElem_range]
  rw [List.getElem?_map, Option.map_eq_some_iff]
  constructor
  · rintro ⟨⟨label, v⟩, hitem, rfl⟩
    rw [← hplace hitem]
    exact List.mem_of_getElem? hitem
  · intro hmem
    rcases List.getElem?_of_mem hmem with ⟨k, hk⟩
    rw [← hplace hk] at hk
    exact ⟨(i, v), hk, rfl⟩

theorem inOrder_eq_of_perm (h : LabelsAll count items) (hperm : items.Perm items') :
    inOrder items = inOrder items' := by
  refine List.ext_getElem? fun i => Option.ext fun v => ?_
  rw [getElem?_inOrder h, getElem?_inOrder (h.perm hperm), hperm.mem_iff]

theorem length_inOrder : (inOrder items).length = items.length := by
  rw [inOrder, List.length_map, List.length_mergeSort]

theorem vectors_of_labelsAll (h : LabelsAll count items) :
    vectors count items = .ok (inOrder items) :=
  if_pos (beq_iff_eq.mpr h.length_eq)

theorem vectors_of_length_ne (h : items.length ≠ count) :
    vectors count items = .error (miscount items.length count) :=
  if_neg fun heq => h (beq_iff_eq.mp heq)

end

section

variable {τ : Type} {c : OpenAi} {send : Http.Transport τ} {t t' : τ} {texts : List String}
  {items : List Labelled}

theorem Answers.embed_eq (h : c.Answers send t texts items t') (htexts : texts ≠ []) :
    c.embed send t texts = (vectors texts.length items, t') := by
  rcases h with ⟨url, r, haddress, hsend, hsuccess, hitems⟩
  have hnonempty : ¬ texts.isEmpty = true := fun hempty => htexts (List.isEmpty_iff.mp hempty)
  rw [embed, if_neg hnonempty]
  unfold post
  rw [haddress]
  dsimp only
  rw [← request, hsend]
  simp only [hsuccess, Bool.not_true, Bool.false_eq_true, if_false, hitems]
  rfl

end

end OpenAi

/-!
# Vectors that are stored

The vector of a name is the last one that was stored under it.
-/

namespace Index

open Collection (putAll)

def vectorOf? (x : Index) (name : String) : Option Embedding :=
  x.vectors.reverse.lookup name

def Fits (x : Index) (dimension : Nat) (v : Embedding) : Prop :=
  0 < dimension ∧ (forall c, x.collection = some c -> c.dimension = dimension) ∧
    v.length = dimension ∧ v.isFinite = true

section

variable {x : Index} {τ : Type} {embed : Embedder τ} {t t' : τ} {d : Document}
  {snippets : List Snippet} {vectors : List Embedding} {dimension : Nat}

theorem storeAll_of_fits {c : Collection} {pairs : List (Snippet × Embedding)}
    (h : forall p, p ∈ pairs -> p.2.length = c.dimension ∧ p.2.isFinite = true) :
    (storeAll c pairs).1 = .ok () := by
  induction pairs generalizing c with
  | nil => rfl
  | cons pair rest ih =>
      rcases pair with ⟨s, v⟩
      rcases List.forall_mem_cons.mp h with ⟨⟨hlength, hfinite⟩, hrest⟩
      rw [storeAll, Collection.insert_eq_ok_iff.mpr ⟨hlength, hfinite, rfl⟩]
      exact ih hrest

theorem exists_ensure (hpos : 0 < dimension)
    (hdimension : forall c, x.collection = some c -> c.dimension = dimension) :
    exists c, x.ensure dimension = .ok c ∧ c.dimension = dimension := by
  unfold ensure
  cases hc : x.collection with
  | some c => exact ⟨c, rfl, hdimension c hc⟩
  | none =>
      have hcreate : Collection.create dimension = .ok { dimension := dimension } :=
        if_neg fun hzero => Nat.ne_of_gt hpos (beq_iff_eq.mp hzero)
      rw [hcreate]
      exact ⟨_, rfl, rfl⟩

theorem store_of_fits (h : forall v, v ∈ vectors -> x.Fits dimension v) :
    (x.store snippets vectors).1 = .ok () := by
  cases vectors with
  | nil => rfl
  | cons v rest =>
      rcases h v List.mem_cons_self with ⟨hpos, hdimension, hlength, _⟩
      rcases exists_ensure hpos hdimension with ⟨c, hensure, hc⟩
      rw [store, hlength, hensure]
      refine storeAll_of_fits fun p hp => ?_
      rcases h p.2 (List.of_mem_zip hp).right with ⟨_, _, hlength', hfinite⟩
      exact ⟨hlength'.trans hc.symm, hfinite⟩

theorem add_of_ne_nil (hchunks : d.snippets x.settings ≠ []) :
    x.add embed t d =
      match embed t ((d.snippets x.settings).map Snippet.text) with
      | (.error e, t) => (.error e, t, x)
      | (.ok vectors, t) =>
          ((x.store (d.snippets x.settings) vectors).1.map fun _ => (d.snippets x.settings).length,
            t, (x.store (d.snippets x.settings) vectors).2) :=
  if_neg fun hempty => hchunks (List.isEmpty_iff.mp hempty)

theorem add_of_error {e : ServiceError} (hchunks : d.snippets x.settings ≠ [])
    (h : embed t ((d.snippets x.settings).map Snippet.text) = (.error e, t')) :
    x.add embed t d = (.error e, t', x) := by
  rw [add_of_ne_nil hchunks, h]

theorem add_of_vectors (hchunks : d.snippets x.settings ≠ [])
    (h : embed t ((d.snippets x.settings).map Snippet.text) = (.ok vectors, t')) :
    x.add embed t d =
      ((x.store (d.snippets x.settings) vectors).1.map fun _ => (d.snippets x.settings).length,
        t', (x.store (d.snippets x.settings) vectors).2) := by
  rw [add_of_ne_nil hchunks, h]

theorem vectorOf?_of_last {old : List (String × Embedding)} {stored : List (Snippet × Embedding)}
    {i : Nat} {s : Snippet} {v : Embedding}
    (hvectors : x.vectors = old ++ stored.map fun p => (name p.1, p.2))
    (hstored : stored[i]? = some (s, v))
    (hlast : forall j p, i < j -> stored[j]? = some p -> name p.1 ≠ name s) :
    x.vectorOf? (name s) = some v := by
  rcases List.getElem?_eq_some_iff.mp hstored with ⟨hi, hpair⟩
  have hsplit : stored = stored.take i ++ (s, v) :: stored.drop (i + 1) := by
    rw [← hpair, ← List.drop_eq_getElem_cons hi, List.take_append_drop]
  refine List.lookup_eq_some_iff.mpr
    ⟨((stored.drop (i + 1)).map fun p => (name p.1, p.2)).reverse,
      (old ++ (stored.take i).map fun p => (name p.1, p.2)).reverse, ?_, fun later hlater => ?_⟩
  · have hmap := congrArg (List.map fun p : Snippet × Embedding => (name p.1, p.2)) hsplit
    rw [List.map_append, List.map_cons] at hmap
    rw [hvectors, hmap, ← List.append_assoc, List.reverse_append, List.reverse_cons,
      List.append_assoc]
    rfl
  · rcases List.mem_map.mp (List.mem_reverse.mp hlater) with ⟨p, hp, rfl⟩
    rcases List.getElem?_of_mem hp with ⟨k, hk⟩
    rw [List.getElem?_drop] at hk
    rw [bne_iff_ne]
    exact fun heq => hlast (i + 1 + k) p (by omega) hk heq.symm

end

/-- The chunks of a document were stored with labelled vectors: in their order, though perhaps not
all of them, each with the vector that is labelled with its place. -/
structure StoredWith (items : List OpenAi.Labelled) (chunks : List Snippet) (x x' : Index)
    (stored : List (Snippet × Embedding)) : Prop where
  paired : forall i s v, stored[i]? = some (s, v) -> chunks[i]? = some s ∧ (i, v) ∈ items
  vectors : x'.vectors = x.vectors ++ stored.map fun p => (name p.1, p.2)
  entries : x'.entries = putAll (stored.map Prod.fst) x.entries

section

open OpenAi

variable {x x' : Index} {d : Document} {items : List Labelled} {chunks : List Snippet}
  {stored : List (Snippet × Embedding)} {τ : Type} {c : OpenAi} {send : Http.Transport τ}
  {t t' : τ}

theorem exists_storedWith (h : LabelsAll chunks.length items) :
    exists stored, StoredWith items chunks x (x.store chunks (inOrder items)).2 stored ∧
      ((x.store chunks (inOrder items)).1 = .ok () -> stored.map Prod.fst = chunks) := by
  rcases exists_stored_store (x := x) chunks (inOrder items) with
    ⟨stored, hprefix, hvectors, hentries, hall⟩
  refine ⟨stored, ⟨fun i s v hstored => ?_, hvectors, hentries⟩, fun hok => ?_⟩
  · rcases hprefix with ⟨rest, hrest⟩
    have hzip : (chunks.zip (inOrder items))[i]? = some (s, v) := by
      rw [← hrest, List.getElem?_append_left (List.getElem?_eq_some_iff.mp hstored).choose]
      exact hstored
    rcases List.getElem?_zip_eq_some.mp hzip with ⟨hchunk, hvector⟩
    exact ⟨hchunk, (getElem?_inOrder h).mp hvector⟩
  · rw [hall hok, List.map_fst_zip]
    rw [length_inOrder, h.length_eq]

/-- The newest vector under the name of a chunk is its own, unless a later one has its place. -/
theorem StoredWith.vectorOf?_eq (h : StoredWith items chunks x x' stored) {i : Nat} {s : Snippet}
    {v : Embedding} (hstored : stored[i]? = some (s, v))
    (hlast : forall j s', i < j -> chunks[j]? = some s' -> s'.start ≠ s.start) :
    x'.vectorOf? (name s) = some v := by
  refine vectorOf?_of_last h.vectors hstored fun j p hj hp hname => ?_
  exact hlast j p.1 hj (h.paired j p.1 p.2 hp).left (name_eq_iff.mp hname).right

theorem add_of_labelsAll (hchunks : d.snippets x.settings ≠ [])
    (h : c.Answers send t ((d.snippets x.settings).map Snippet.text) items t')
    (hlabels : LabelsAll (d.snippets x.settings).length items) :
    x.add (c.embed send) t d =
      ((x.store (d.snippets x.settings) (inOrder items)).1.map
          fun _ => (d.snippets x.settings).length,
        t', (x.store (d.snippets x.settings) (inOrder items)).2) := by
  refine add_of_vectors hchunks ?_
  rw [h.embed_eq (mt List.map_eq_nil_iff.mp hchunks), List.length_map,
    vectors_of_labelsAll hlabels]

end

/-- Each chunk is stored with its own vector, in whatever order the server answers.  If the labels
of an answer are the places of the texts, the vectors are returned in their order; if there are
too few or too many vectors, that is an error.  Hence the chunks of a document are stored with the
vectors that are labelled with their places, all of them if the vectors fit, and another order of
the answer makes no difference; where the number is wrong the index stays as it was. -/
theorem chunks_get_own_vectors {τ : Type} {c : OpenAi} {send : Http.Transport τ} {t t' : τ}
    {texts : List String} {items : List OpenAi.Labelled} (htexts : texts ≠ [])
    (h : c.Answers send t texts items t') :
    (OpenAi.LabelsAll texts.length items ->
      exists vectors, c.embed send t texts = (.ok vectors, t') ∧ vectors.length = texts.length ∧
        forall i v, vectors[i]? = some v <-> (i, v) ∈ items) ∧
    (items.length ≠ texts.length ->
      c.embed send t texts = (.error (OpenAi.miscount items.length texts.length), t')) ∧
    forall (x : Index) (d : Document), (d.snippets x.settings).map Snippet.text = texts ->
      (items.length ≠ texts.length ->
        x.add (c.embed send) t d = (.error (OpenAi.miscount items.length texts.length), t', x)) ∧
      (OpenAi.LabelsAll texts.length items ->
        (exists stored,
          StoredWith items (d.snippets x.settings) x (x.add (c.embed send) t d).2.2 stored ∧
          (forall (i : Nat) s v, stored[i]? = some (s, v) ->
            (forall (j : Nat) s', i < j -> (d.snippets x.settings)[j]? = some s' ->
              s'.start ≠ s.start) ->
            (x.add (c.embed send) t d).2.2.vectorOf? (name s) = some v) ∧
          forall n, (x.add (c.embed send) t d).1 = .ok n ->
            n = texts.length ∧ stored.map Prod.fst = d.snippets x.settings) ∧
        (forall dimension, (forall i v, (i, v) ∈ items -> x.Fits dimension v) ->
          (x.add (c.embed send) t d).1 = .ok texts.length) ∧
        forall {τ' : Type} (c' : OpenAi) (send' : Http.Transport τ') (s s' : τ')
          (items' : List OpenAi.Labelled), items.Perm items' ->
          c'.Answers send' s texts items' s' ->
          (x.add (c'.embed send') s d).1 = (x.add (c.embed send) t d).1 ∧
            (x.add (c'.embed send') s d).2.2 = (x.add (c.embed send) t d).2.2) := by
  have hmiscount (hlength : items.length ≠ texts.length) :
      c.embed send t texts = (.error (OpenAi.miscount items.length texts.length), t') := by
    rw [h.embed_eq htexts, OpenAi.vectors_of_length_ne hlength]
  refine ⟨fun hlabels => ⟨OpenAi.inOrder items, ?_, ?_, fun i v => OpenAi.getElem?_inOrder hlabels⟩,
    hmiscount, ?_⟩
  · rw [h.embed_eq htexts, OpenAi.vectors_of_labelsAll hlabels]
  · rw [OpenAi.length_inOrder, hlabels.length_eq]
  rintro x d rfl
  have hchunks : d.snippets x.settings ≠ [] := mt List.map_eq_nil_iff.mpr htexts
  refine ⟨fun hlength => add_of_error hchunks (hmiscount hlength), fun hlabels => ?_⟩
  rw [List.length_map] at hlabels ⊢
  have hadd := add_of_labelsAll hchunks h hlabels
  rw [hadd]
  refine ⟨?_, fun dimension hfits => ?_, fun c' send' s s' items' hperm h' => ?_⟩
  · rcases exists_storedWith (x := x) hlabels with ⟨stored, hstored, hall⟩
    refine ⟨stored, hstored, fun i s v hv hlast => hstored.vectorOf?_eq hv hlast, fun n hn => ?_⟩
    cases hstore : (x.store (d.snippets x.settings) (OpenAi.inOrder items)).1 with
    | error e =>
        rw [hstore] at hn
        cases hn
    | ok =>
        rw [hstore] at hn
        cases hn
        exact ⟨rfl, hall hstore⟩
  · have hall : forall v, v ∈ OpenAi.inOrder items -> x.Fits dimension v := by
      intro v hv
      rcases List.getElem?_of_mem hv with ⟨i, hi⟩
      exact hfits i v ((OpenAi.getElem?_inOrder hlabels).mp hi)
    rw [store_of_fits hall]
    rfl
  · rw [add_of_labelsAll hchunks h' (hlabels.perm hperm),
      OpenAi.inOrder_eq_of_perm hlabels hperm]
    exact ⟨rfl, rfl⟩

def desk : OpenAi where
  apiKey := "key"
  base := "http://[::1]/v1/"
  model := "m"
  embeddingModel := "e"

def swappedBody : List UInt8 :=
  ("\x7b\"data\":[\x7b\"index\":1,\"embedding\":[1,0]\x7d," ++
    "\x7b\"index\":0,\"embedding\":[0,1]\x7d]\x7d").toList.map fun c => UInt8.ofNat c.toNat

def swapped : Http.Transport Unit :=
  fun _ _ => (some ⟨200, swappedBody⟩, ())

def swappedItems : List OpenAi.Labelled :=
  ((Json.ofBytes? swappedBody).bind OpenAi.data?).getD []

theorem labels_swappedItems : swappedItems.map Prod.fst = [1, 0] := by
  decide +kernel

theorem answers_swapped (texts : List String) :
    desk.Answers swapped () texts swappedItems () := by
  have haddress : (desk.address "embeddings").toOption.isSome = true := by decide +kernel
  have hread : ((Json.ofBytes? swappedBody).bind OpenAi.data?).isSome = true := by decide +kernel
  cases hurl : desk.address "embeddings" with
  | error e =>
      rw [hurl] at haddress
      cases haddress
  | ok url =>
      refine ⟨url, ⟨200, swappedBody⟩, hurl, rfl, rfl, ?_⟩
      rcases Option.isSome_iff_exists.mp hread with ⟨items, hitems⟩
      rw [swappedItems, hitems]
      rfl

/-- Both chunks of the note get their own vectors from a swapped answer; for a single chunk the
two vectors are one too many. -/
theorem note_gets_own_vectors :
    swappedItems.map Prod.fst = [1, 0] ∧
      (exists vectors, desk.embed swapped () ["ab", "cd"] = (.ok vectors, ()) ∧
        vectors.length = 2 ∧ forall i v, vectors[i]? = some v <-> (i, v) ∈ swappedItems) ∧
      (exists stored, StoredWith swappedItems (note.snippets narrow) drawer
        (drawer.add (desk.embed swapped) () note).2.2 stored) ∧
      drawer.add (desk.embed swapped) () remark =
        (.error (.model "OpenAI returned 2 embeddings for 1 inputs"), (), drawer) := by
  have hlabels : OpenAi.LabelsAll 2 swappedItems := by
    rw [OpenAi.LabelsAll, labels_swappedItems]
    decide
  have hnote : (note.snippets drawer.settings).map Snippet.text = ["ab", "cd"] :=
    congrArg (List.map Snippet.text) snippets_note
  have hremark : (remark.snippets drawer.settings).map Snippet.text = ["xyz"] :=
    congrArg (List.map Snippet.text) snippets_remark
  rcases chunks_get_own_vectors (List.cons_ne_nil "ab" ["cd"]) (answers_swapped ["ab", "cd"]) with
    ⟨hvectors, _, hadd⟩
  rcases (hadd drawer note hnote).right hlabels with ⟨⟨stored, hstored, _⟩, _⟩
  rcases chunks_get_own_vectors (List.cons_ne_nil "xyz" []) (answers_swapped ["xyz"]) with
    ⟨_, _, hadd'⟩
  have hlength : swappedItems.length = 2 := hlabels.length_eq
  have hne : swappedItems.length ≠ ["xyz"].length := by
    rw [hlength]
    decide
  refine ⟨labels_swappedItems, hvectors hlabels, ⟨stored, hstored⟩, ?_⟩
  rw [(hadd' drawer remark hremark).left hne, hlength]
  rfl

end Index
end Colloquy
