import Colloquy.Chunk.Split
import Mathlib.Data.List.DropRight

/-!
# Chunks are stretches of the text

Whatever sections a chunk is made of, and however far it reaches back into the one before, it
is a stretch of the text.
-/

namespace Colloquy

theorem Text.length_strip_le (cs : List Char) : (strip cs).length <= (dropBlanks cs).length := by
  have hend := (List.dropWhile_sublist isBlank (l := (dropBlanks cs).reverse)).length_le
  rw [List.length_reverse] at hend
  rw [strip, dropBlanksEnd, List.length_reverse]
  exact hend

namespace Chunk

structure Span.Within (text : List Char) (s : Span) : Prop where
  start_le_stop : s.start <= s.stop
  stop_le : s.stop <= text.length

theorem trimmed_stop_le (r : Remaining) (stop : Nat) : (trimmed r stop).stop <= r.stop := by
  have hraw : (r.text.take (stop - r.place)).length <= r.text.length := by
    rw [List.length_take]
    exact Nat.min_le_right _ _
  have hblanks := congrArg List.length
    (List.takeWhile_append_dropWhile (p := Text.isBlank) (l := r.text.take (stop - r.place)))
  rw [List.length_append] at hblanks
  have hstrip := Text.length_strip_le (r.text.take (stop - r.place))
  rw [Text.dropBlanks] at hstrip
  show r.place + _ + (Text.strip _).length <= r.place + r.text.length
  omega

variable {s : Settings} {text : List Char} {breaks : List LineBreak}

theorem within_of_mem_chunksFrom {place covered : Nat} {c : Span}
    (h : c ∈ chunksFrom s text breaks place covered) : c.Within text := by
  -- The induction is over the places at which chunks begin.
  unfold chunksFrom at h
  split at h
  · rename_i hplace
    dsimp only at h
    split at h
    · rename_i hkept
      rw [Bool.and_eq_true, decide_eq_true_eq] at hkept
      rcases List.mem_cons.mp h with rfl | h
      · refine ⟨Nat.le_of_lt hkept.left, Nat.le_trans (trimmed_stop_le _ _) ?_⟩
        show place + (text.drop place).length <= text.length
        rw [List.length_drop]
        omega
      · exact within_of_mem_chunksFrom h
    · exact within_of_mem_chunksFrom h
  · cases h
termination_by text.length - place
decreasing_by
  · omega
  · omega

theorem within_of_mem_chunks {c : Span} (h : c ∈ chunks s text) : c.Within text :=
  within_of_mem_chunksFrom h

/-!
# Chunks one by one
-/

def Remaining.at (text : List Char) (breaks : List LineBreak) (place : Nat) : Remaining :=
  ⟨place, text.drop place, breaks.filter fun b => place <= b.span.start⟩

theorem Remaining.lineLevels_of_pairwise {r : Remaining}
    (h : (r.breaks.map LineBreak.level).Pairwise fun a b => decide (a <= b) = true) :
    r.lineLevels = (r.breaks.map LineBreak.level).eraseReps.map Level.lines := by
  rw [lineLevels, List.mergeSort_of_pairwise h]

theorem chunksFrom_eq_cons {place covered : Nat} (stop : Nat) (c : Span)
    (hplace : place < text.length) (hoverlap : s.overlap = 0)
    (hstop : chunkStop s (.at text breaks place) (candidates s (.at text breaks place)) = stop)
    (hchunk : trimmed (.at text breaks place) stop = c)
    (hkept : c.start < c.stop ∧ covered < c.stop) :
    chunksFrom s text breaks place covered =
      c :: chunksFrom s text breaks (max stop (place + 1)) c.stop := by
  have hnext : nextPlace s (.at text breaks place) (candidates s (.at text breaks place)) stop =
      stop := by
    rw [nextPlace, hoverlap]
    rfl
  unfold Remaining.at at hstop hchunk hnext
  rw [chunksFrom, dif_pos hplace]
  dsimp only
  rw [hstop, hchunk, hnext, if_pos (by simpa using hkept)]

theorem chunksFrom_eq_nil {place covered : Nat} (h : text.length <= place) :
    chunksFrom s text breaks place covered = [] := by
  rw [chunksFrom, dif_neg (Nat.not_lt_of_le h)]

end Chunk
end Colloquy
