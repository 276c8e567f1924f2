import Colloquy.Proofs.Index.Stored
import Colloquy.Proofs.Snippet.Components
import Colloquy.Proofs.Snippet.Pages
import Mathlib.Data.List.Nodup
import Mathlib.Logic.ExistsUnique

/-!
# What an index finds

The snippets that an index finds are pieces of the documents that were added to it, with the
pages that they stand on, however many stored chunks each was merged from.
-/

namespace Colloquy

namespace Snippet

def Contains (s c : Snippet) : Prop :=
  c.source = s.source ∧ s.start <= c.start ∧ c.stop <= s.stop

theorem touches_of_contains {a b c : Snippet} (ha : a.Contains c) (hb : b.Contains c) :
    a.touches b = true := by
  rcases ha with ⟨hsource, hstart, hstop⟩
  rcases hb with ⟨hsource', hstart', hstop'⟩
  have hc := c.start_le_stop
  exact touches_iff.mpr ⟨hsource.symm.trans hsource', by omega, by omega⟩

theorem contains_of_unites {text : String -> List Char} {members : Set Snippet} {s c : Snippet}
    (h : Unites text members s) (hc : c ∈ members) : s.Contains c :=
  ⟨h.source c hc, h.start.right ⟨c, hc, rfl⟩, h.stop.right ⟨c, hc, rfl⟩⟩

end Snippet

namespace Document

variable {ds : List Document} {d d' : Document}

theorem eq_of_source (hdistinct : (ds.map source).Nodup) (hd : d ∈ ds) (hd' : d' ∈ ds)
    (hsource : d.source = d'.source) : d = d' :=
  List.inj_on_of_nodup_map hdistinct hd hd' hsource

def textOf (ds : List Document) (name : String) : List Char :=
  ((ds.find? fun d => d.source == name).map text).getD []

theorem textOf_source (hdistinct : (ds.map source).Nodup) (hd : d ∈ ds) :
    textOf ds d.source = d.text := by
  unfold textOf
  cases hfind : ds.find? fun d' => d'.source == d.source with
  | none =>
      have hnone := List.find?_eq_none.mp hfind d hd
      simp at hnone
  | some d' =>
      have hsource : d'.source = d.source := by simpa using List.find?_some hfind
      rw [eq_of_source hdistinct (List.mem_of_find?_eq_some hfind) hd hsource]
      rfl

theorem Fits.snippet?_ofSnippet (hd : d.Fits) {s : Chunk.Span} (hs : s.Within d.text) :
    (Metadata.ofSnippet (d.snippet s)).snippet? = some (d.snippet s) := by
  have hshows := hd.shows_snippet hs
  apply Metadata.snippet?_ofSnippet
  · exact Nat.lt_of_le_of_lt (Nat.le_trans Snippet.start_le_stop hshows.stop_le) hd.bytes
  · rw [hshows.firstPage]
    exact hd.pageOf_lt _
  · rw [hshows.lastPage]
    exact hd.pageOf_lt _

end Document

namespace Index

/-- The snippets are true of the documents, and each stored chunk that was found is in one of
them. -/
structure IsTrueOf (ds : List Document) (found : List Metadata) (results : List Snippet) :
    Prop where
  shown : forall s, s ∈ results -> exists d, d ∈ ds ∧ d.Shows s
  apart : results.Pairwise fun a b => ¬ a.touches b = true
  length_le : results.length <= found.length
  kept : forall m, m ∈ found -> exists d s, d ∈ ds ∧ Chunk.Span.Within d.text s ∧
    m = .ofSnippet (d.snippet s) ∧ ∃! r, r ∈ results ∧ r.Contains (d.snippet s)

section

open Snippet (Consistent merge_grouping snippetsAt)

variable {ds : List Document} {l : List Snippet}

variable (hdistinct : (ds.map Document.source).Nodup)

include hdistinct

theorem consistent_of_shows (hl : forall s, s ∈ l -> exists d, d ∈ ds ∧ d.Shows s) :
    Consistent (Document.textOf ds) l := by
  intro s hs
  rcases hl s hs with ⟨d, hd, hshows⟩
  rw [hshows.source, Document.textOf_source hdistinct hd]
  exact hshows.slice

theorem shows_of_group (hl : forall s, s ∈ l -> exists d, d ∈ ds ∧ d.Shows s) {g : Snippet.Group}
    (hg : g.IsSound (Document.textOf ds) l) : exists d, d ∈ ds ∧ d.Shows g.snippet := by
  have hrank := hg.bounded g.rank hg.rank.left
  have hfirst : l[g.rank] ∈ snippetsAt l g.members :=
    ⟨g.rank, hg.rank.left, List.getElem?_eq_getElem hrank⟩
  rcases hl _ (List.getElem_mem hrank) with ⟨d, hd, hshows⟩
  refine ⟨d, hd, Document.shows_of_unites hg.unites ?_ (Document.textOf_source hdistinct hd)⟩
  rintro a ⟨i, hi, ha⟩
  rcases hl a (List.mem_of_getElem? ha) with ⟨d', hd', hshows'⟩
  have hsource : d'.source = d.source := by
    rw [← hshows'.source, ← hshows.source, hg.unites.source a ⟨i, hi, ha⟩,
      hg.unites.source _ hfirst]
  rw [← Document.eq_of_source hdistinct hd' hd hsource]
  exact hshows'

/-- Whatever chunks of the documents are found, merging makes of them what is true of the
documents. -/
theorem isTrueOf_gather (hfits : forall d, d ∈ ds -> d.Fits) {found : List Metadata}
    (hfound : forall m, m ∈ found -> m.IsFrom ds) : IsTrueOf ds found (gather found) := by
  have hl : forall s, s ∈ found.filterMap Metadata.snippet? -> exists d, d ∈ ds ∧ d.Shows s := by
    intro s hs
    rcases List.mem_filterMap.mp hs with ⟨m, hm, hsnippet⟩
    rcases hfound m hm with ⟨d, span, hd, hspan, rfl⟩
    rw [(hfits d hd).snippet?_ofSnippet hspan] at hsnippet
    cases hsnippet
    exact ⟨d, hd, (hfits d hd).shows_snippet hspan⟩
  rcases merge_grouping (consistent_of_shows hdistinct hl) with ⟨gs, hmerge, hgrouping, hapart⟩
  rw [gather, hmerge]
  constructor
  · intro s hs
    rcases List.mem_map.mp hs with ⟨g, hg, rfl⟩
    exact shows_of_group hdistinct hl (hgrouping.sound g hg)
  · exact List.pairwise_map.mpr hapart
  · rw [← hmerge]
    exact Nat.le_trans (Snippet.length_merge_le _) (List.length_filterMap_le _ _)
  · intro m hm
    rcases hfound m hm with ⟨d, span, hd, hspan, rfl⟩
    refine ⟨d, span, hd, hspan, rfl, ?_⟩
    have hmem : d.snippet span ∈ found.filterMap Metadata.snippet? :=
      List.mem_filterMap.mpr ⟨_, hm, (hfits d hd).snippet?_ofSnippet hspan⟩
    rcases List.getElem?_of_mem hmem with ⟨i, hi⟩
    rcases hgrouping.grouped i (List.getElem?_eq_some_iff.mp hi).choose with ⟨g, hg, hmember⟩
    have hcontains := Snippet.contains_of_unites (hgrouping.sound g hg).unites ⟨i, hmember, hi⟩
    refine ⟨g.snippet, ⟨List.mem_map_of_mem hg, hcontains⟩, ?_⟩
    rintro r ⟨hr, hcontains'⟩
    rcases List.mem_map.mp hr with ⟨h, hh, rfl⟩
    by_contra hne
    have hgroups : h ≠ g := fun hsame => hne (congrArg Snippet.Group.snippet hsame)
    exact hapart.forall hh hg hgroups (Snippet.touches_of_contains hcontains' hcontains)

end

/-- What an index finds is true of the documents that were added to it, whatever became of it
since: each result is the piece of one document at its bytes, with the pages that these are on,
no two results touch, and there are at most as many as were asked for.  Each stored chunk that the
search has found is in exactly one of them.  This holds of whatever chunks a search may find. -/
theorem found_snippets_are_true {ds : List Document} (hdistinct : (ds.map Document.source).Nodup)
    (hfits : forall d, d ∈ ds -> d.Fits) :
    (forall found : List Metadata, (forall m, m ∈ found -> m.IsFrom ds) ->
      IsTrueOf ds found (gather found)) ∧
    forall x : Index, History x ds -> forall (τ : Type) (embed : Embedder τ) (t : τ)
      (query : String) (limit : Nat) (results : List Snippet),
      (x.find embed t query limit).1 = .ok results ->
        exists found, (x.nearest embed t query limit).1 = .ok found ∧ found.length <= limit ∧
          IsTrueOf ds found results := by
  refine ⟨fun found hfound => isTrueOf_gather hdistinct hfits hfound, ?_⟩
  intro x hx τ embed t query limit results hresults
  change (x.nearest embed t query limit).1.map gather = .ok results at hresults
  cases hnearest : (x.nearest embed t query limit).1 with
  | error e =>
      rw [hnearest] at hresults
      cases hresults
  | ok found =>
      rw [hnearest] at hresults
      cases hresults
      rcases hx.stores.nearest hnearest with ⟨hlimit, hfrom⟩
      exact ⟨found, rfl, hlimit, isTrueOf_gather hdistinct hfits hfrom⟩

def manual : Document :=
  ⟨"manual", ['a', 'b', '\x0c', '\n', 'c', 'd']⟩

def blank : Document :=
  ⟨"blank", []⟩

def small : Chunk.Settings :=
  ⟨6, 0, by decide⟩

/-- All texts are alike. -/
def alike : Embedder Unit :=
  fun _ texts => (.ok (texts.map fun _ => [1]), ())

def shelf : Index :=
  ((({ settings := small } : Index).add alike () manual).2.2.add alike () blank).2.2

theorem history_shelf : History shelf [manual, blank] :=
  .added (.added .opened alike () manual) alike () blank

def whole : Snippet :=
  ⟨"manual", 0, 1, 2, "ab\x0c\ncd"⟩

theorem snippets_manual : manual.snippets small = [whole] := by
  have hbreaks : Chunk.lineBreaks manual.text = [⟨1, ⟨3, 4⟩⟩] := by decide +kernel
  have hstop : Chunk.chunkStop small ⟨0, manual.text, [⟨1, ⟨3, 4⟩⟩]⟩
      (Chunk.candidates small ⟨0, manual.text, [⟨1, ⟨3, 4⟩⟩]⟩) = 6 := by decide +kernel
  have hchunk : Chunk.trimmed ⟨0, manual.text, [⟨1, ⟨3, 4⟩⟩]⟩ 6 = ⟨0, 6⟩ := by decide +kernel
  have hrest : Chunk.chunksFrom small manual.text [⟨1, ⟨3, 4⟩⟩] 6 6 = [] := by
    rw [Chunk.chunksFrom, dif_neg (by decide)]
  have hchunks : Chunk.chunks small manual.text = [⟨0, 6⟩] := by
    rw [Chunk.chunks, hbreaks, Chunk.chunksFrom, dif_pos (by decide), List.drop_zero,
      List.filter_cons_of_pos (by decide), List.filter_nil]
    simp only [hstop, hchunk, Chunk.nextPlace]
    exact congrArg (List.cons ⟨0, 6⟩) hrest
  rw [Document.snippets, hchunks]
  decide +kernel

theorem snippets_blank : blank.snippets small = [] := by
  rw [Document.snippets, Chunk.chunks, Chunk.chunksFrom, dif_neg (by decide)]
  rfl

theorem find_shelf : (shelf.find alike () "cd" 5).1 = .ok [whole] := by
  have hshelf : shelf = (({ settings := small } : Index).add alike () manual).2.2 := by
    apply add_of_snippets_nil
    rw [settings_add]
    exact snippets_blank
  rw [hshelf, Index.add]
  simp only [snippets_manual]
  decide +kernel

/-- The text is found as a whole, also if two overlapping pieces of it are found. -/
theorem shelf_finds_whole :
    (shelf.find alike () "cd" 5).1 = .ok [whole] ∧
      (exists found, (shelf.nearest alike () "cd" 5).1 = .ok found ∧ found.length <= 5 ∧
        IsTrueOf [manual, blank] found [whole]) ∧
      IsTrueOf [manual, blank]
        [.ofSnippet (manual.snippet ⟨2, 6⟩), .ofSnippet (manual.snippet ⟨0, 3⟩)] [whole] := by
  have hfits : forall d, d ∈ [manual, blank] -> d.Fits := by
    intro d hd
    simp only [List.mem_cons, List.not_mem_nil, or_false] at hd
    rcases hd with rfl | rfl
    · exact ⟨by decide +kernel, by decide +kernel⟩
    · exact ⟨by decide +kernel, by decide +kernel⟩
  have hdistinct : ([manual, blank].map Document.source).Nodup := by decide +kernel
  rcases found_snippets_are_true hdistinct hfits with ⟨hgather, hfind⟩
  have hpieces : gather [.ofSnippet (manual.snippet ⟨2, 6⟩), .ofSnippet (manual.snippet ⟨0, 3⟩)] =
      [whole] := by decide +kernel
  refine ⟨find_shelf, hfind shelf history_shelf Unit alike () "cd" 5 _ find_shelf, ?_⟩
  rw [← hpieces]
  apply hgather
  intro m hm
  simp only [List.mem_cons, List.not_mem_nil, or_false] at hm
  rcases hm with rfl | rfl
  · exact ⟨manual, ⟨2, 6⟩, List.mem_cons_self, ⟨by decide, by decide⟩, rfl⟩
  · exact ⟨manual, ⟨0, 3⟩, List.mem_cons_self, ⟨by decide, by decide⟩, rfl⟩

end Index
end Colloquy
