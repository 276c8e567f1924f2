import Colloquy.Proofs.Chunk.Stretches
import Colloquy.Proofs.Snippet.Groups
import Colloquy.Snippet.Document

/-!
# Pages of snippets

The page that a byte of a document is on is one more than the number of page breaks before it.
Pages only go up in a document, so the pages of united snippets run from that of the first byte
to that of the last.
-/

namespace Colloquy

open Text (byteLength takeBytes)

namespace Document

def pageOf (d : Document) (byte : Nat) : Nat :=
  (takeBytes byte d.text).count pageBreak + 1

/-- The snippet is what the document has at its bytes, and knows the pages of its ends. -/
structure Shows (d : Document) (s : Snippet) : Prop where
  source : s.source = d.source
  slice : s.IsSliceOf d.text
  firstPage : s.firstPage = d.pageOf s.start
  lastPage : s.lastPage = d.pageOf s.stop

structure Fits (d : Document) : Prop where
  bytes : byteLength d.text < Nat.pow 2 63
  pages : d.text.count pageBreak + 1 < Nat.pow 2 32

variable {d : Document} {s : Snippet} {span : Chunk.Span}

theorem pageOf_mono : Monotone d.pageOf :=
  fun _ _ h => Nat.succ_le_succ ((Text.takeBytes_prefix_of_le h).sublist.count_le pageBreak)

theorem Fits.pageOf_lt (h : d.Fits) (byte : Nat) : d.pageOf byte < Nat.pow 2 32 :=
  Nat.lt_of_le_of_lt (Nat.succ_le_succ (Text.takeBytes_prefix.sublist.count_le pageBreak)) h.pages

theorem Fits.pageAfter_take (h : d.Fits) (n : Nat) :
    pageAfter (d.text.take n) = d.pageOf (byteLength (d.text.take n)) := by
  have htake : takeBytes (byteLength (d.text.take n)) (d.text.take n ++ d.text.drop n) =
      d.text.take n := Text.takeBytes_append
  rw [List.take_append_drop] at htake
  have hpage := h.pageOf_lt (byteLength (d.text.take n))
  rw [pageOf, htake] at hpage ⊢
  exact Nat.mod_eq_of_lt hpage

theorem take_stop (h : span.Within d.text) :
    d.text.take span.stop = d.text.take span.start ++ span.of d.text := by
  have hstop : span.stop = span.start + span.length :=
    (Nat.add_sub_cancel' h.start_le_stop).symm
  rw [hstop, List.take_add]
  rfl

theorem stop_snippet (h : span.Within d.text) :
    (d.snippet span).stop = byteLength (d.text.take span.stop) := by
  rw [take_stop h, Text.byteLength_append, Snippet.stop, snippet, String.toList_ofList]

theorem isSliceOf_snippet (h : span.Within d.text) : (d.snippet span).IsSliceOf d.text := by
  rw [Snippet.isSliceOf_iff]
  refine ⟨d.text.take span.start, d.text.drop span.stop, ?_, rfl⟩
  rw [snippet, String.toList_ofList, ← List.append_assoc, ← take_stop h, List.take_append_drop]

theorem Fits.shows_snippet (hd : d.Fits) (h : span.Within d.text) :
    d.Shows (d.snippet span) where
  source := rfl
  slice := isSliceOf_snippet h
  firstPage := hd.pageAfter_take span.start
  lastPage := by
    rw [stop_snippet h]
    exact hd.pageAfter_take span.stop

theorem Shows.stop_le (h : d.Shows s) : s.stop <= byteLength d.text :=
  Snippet.stop_le_of_isSliceOf h.slice

/-- What unites snippets of a document is a snippet of the document: the first page is that of
the member that starts first, and the last page that of the member that stops last. -/
theorem shows_of_unites {text : String -> List Char} {members : Set Snippet}
    (hunites : Snippet.Unites text members s) (hshows : forall a, a ∈ members -> d.Shows a)
    (htext : text d.source = d.text) : d.Shows s := by
  rcases hunites.start with ⟨⟨a, ha, hstart⟩, hleast⟩
  rcases hunites.stop with ⟨⟨b, hb, hstop⟩, hgreatest⟩
  have hsource : s.source = d.source := (hunites.source a ha).symm.trans (hshows a ha).source
  refine ⟨hsource, ?_, ?_, ?_⟩
  · have hslice := hunites.slice
    rw [hsource, htext] at hslice
    exact hslice
  · apply hunites.firstPage.unique
    rw [← hstart, ← (hshows a ha).firstPage]
    refine ⟨⟨a, ha, rfl⟩, ?_⟩
    rintro _ ⟨c, hc, rfl⟩
    rw [(hshows a ha).firstPage, (hshows c hc).firstPage]
    apply pageOf_mono
    rw [hstart]
    exact hleast ⟨c, hc, rfl⟩
  · apply hunites.lastPage.unique
    rw [← hstop, ← (hshows b hb).lastPage]
    refine ⟨⟨b, hb, rfl⟩, ?_⟩
    rintro _ ⟨c, hc, rfl⟩
    rw [(hshows b hb).lastPage, (hshows c hc).lastPage]
    apply pageOf_mono
    rw [hstop]
    exact hgreatest ⟨c, hc, rfl⟩

end Document
end Colloquy
