import Colloquy.Proofs.Text.Slice
import Colloquy.Script.Capture

/-!
# Output that is cut short

Of output that is too long the executor keeps the longest start of whole characters that fits
into the limit.  The search for the end of that start goes backwards from the limit, and it
always ends: the start of a text is a boundary, too.
-/

namespace Colloquy
namespace Text

variable {cs kept : List Char} {limit m n : Nat}

/-!
# Boundaries
-/

/-- The boundaries of a text are the ends of its beginnings. -/
theorem isBoundary_iff :
    isBoundary cs n = true <-> exists front, front <+: cs ∧ byteLength front = n := by
  rw [isBoundary, Option.isSome_iff_exists]
  constructor
  · rintro ⟨⟨front, back⟩, h⟩
    rcases splitBytes?_eq_some_iff.mp h with ⟨hcs, hlength⟩
    exact ⟨front, ⟨back, hcs.symm⟩, hlength⟩
  · rintro ⟨front, ⟨back, hcs⟩, hlength⟩
    exact ⟨(front, back), splitBytes?_eq_some_iff.mpr ⟨hcs.symm, hlength⟩⟩

theorem le_of_boundaryBefore? (h : boundaryBefore? cs n = some m) :
    m <= n ∧ forall k, k <= n -> isBoundary cs k = true -> k <= m := by
  induction n with
  | zero =>
      rw [boundaryBefore?, if_pos (isBoundary_zero cs)] at h
      cases h
      exact ⟨Nat.le_refl 0, fun k hk _ => hk⟩
  | succ n ih =>
      rw [boundaryBefore?] at h
      split at h
      · cases h
        exact ⟨Nat.le_refl _, fun k hk _ => hk⟩
      · rename_i hno
        rcases ih h with ⟨hle, hlast⟩
        refine ⟨Nat.le_succ_of_le hle, ?_⟩
        intro k hk hboundary
        have hne : k ≠ n + 1 := by
          rintro rfl
          exact hno hboundary
        exact hlast k (by omega) hboundary

/-!
# The longest start that fits

A character has at most four bytes, so no more than three bytes of the limit stay unused.
-/

/-- The longest of the beginnings of a text that have at most `limit` bytes. -/
structure LongestStart (limit : Nat) (cs kept : List Char) : Prop where
  isStart : kept <+: cs
  fits : byteLength kept <= limit
  longest : forall start, start <+: cs -> byteLength start <= limit -> start <+: kept

/-- The search ends at the end of the longest start that fits, and the cut is made there. -/
theorem exists_longestStart (cs : List Char) (limit : Nat) :
    exists kept, LongestStart limit cs kept ∧
      boundaryBefore? cs limit = some (byteLength kept) ∧
      slice? cs 0 (byteLength kept) = some kept := by
  rcases exists_boundaryBefore? cs limit with ⟨stop, hstop, hboundary⟩
  rcases isBoundary_iff.mp hboundary with ⟨kept, hstart, rfl⟩
  rcases le_of_boundaryBefore? hstop with ⟨hfits, hlast⟩
  refine ⟨kept, ⟨hstart, hfits, ?_⟩, hstop, ?_⟩
  · intro start hprefix hlength
    have hle : byteLength start <= byteLength kept :=
      hlast _ hlength (isBoundary_iff.mpr ⟨start, hprefix, rfl⟩)
    exact prefix_of_byteLength_le hprefix hstart hle
  · rcases hstart with ⟨back, hcs⟩
    exact slice?_eq_some_iff.mpr ⟨[], back, hcs.symm, rfl, rfl⟩

namespace LongestStart

theorem exists_next (h : LongestStart limit cs kept) (hlong : limit < byteLength cs) :
    exists c rest, cs = kept ++ c :: rest ∧ limit < byteLength kept + c.utf8Size := by
  -- With the next character the start would be longer, and it is the longest one.
  rcases h.isStart with ⟨back, rfl⟩
  cases back with
  | nil =>
      rw [List.append_nil] at hlong
      exact absurd h.fits (by omega)
  | cons c rest =>
      refine ⟨c, rest, rfl, ?_⟩
      refine Nat.lt_of_not_le fun hfits => ?_
      have hprefix : kept ++ [c] <+: kept ++ c :: rest := ⟨rest, by simp⟩
      have hlonger := (h.longest (kept ++ [c]) hprefix (by simpa using hfits)).length_le
      rw [List.length_append, List.length_singleton] at hlonger
      omega

theorem le_byteLength_add_three (h : LongestStart limit cs kept) (hlong : limit < byteLength cs) :
    limit <= byteLength kept + 3 := by
  rcases h.exists_next hlong with ⟨c, rest, _, hnext⟩
  have hsize := c.utf8Size_le_four
  omega

theorem eq_nil_iff (h : LongestStart limit cs kept) (hlong : limit < byteLength cs) :
    kept = [] <-> exists c rest, cs = c :: rest ∧ limit < c.utf8Size := by
  constructor
  · rintro rfl
    rcases h.exists_next hlong with ⟨c, rest, hcs, hnext⟩
    exact ⟨c, rest, hcs, by simpa using hnext⟩
  · rintro ⟨c, rest, rfl, hlarge⟩
    cases kept with
    | nil => rfl
    | cons d kept =>
        rcases List.cons_prefix_cons.mp h.isStart with ⟨rfl, _⟩
        have hfits := h.fits
        rw [byteLength_cons] at hfits
        omega

end LongestStart
end Text

namespace Script
namespace Executor

open Text (LongestStart boundaryBefore? byteLength decodeLossy slice?)

/-- Output within the limit is kept as it is.  Of other output the longest start of whole
characters that fits is kept, with a note about the length of the whole; at most three bytes of
the limit are left unused, and nothing is kept only if the first character does not fit. -/
theorem captured_keeps_longest_start (e : Executor) (bytes : List UInt8) :
    (byteLength (decodeLossy bytes) <= e.maxOutputBytes ->
      e.captured bytes = String.ofList (decodeLossy bytes)) ∧
    (e.maxOutputBytes < byteLength (decodeLossy bytes) -> exists kept,
      e.captured bytes = String.ofList kept ++ "...[truncated, " ++
        toString (byteLength (decodeLossy bytes)) ++ " bytes total]" ∧
      LongestStart e.maxOutputBytes (decodeLossy bytes) kept ∧
      e.maxOutputBytes <= byteLength kept + 3 ∧
      (kept = [] <-> exists c rest, decodeLossy bytes = c :: rest ∧ e.maxOutputBytes < c.utf8Size) ∧
      boundaryBefore? (decodeLossy bytes) e.maxOutputBytes = some (byteLength kept) ∧
      slice? (decodeLossy bytes) 0 (byteLength kept) = some kept) := by
  generalize htext : decodeLossy bytes = text
  constructor
  · intro hshort
    rw [captured, htext, truncate, if_pos hshort]
  · intro hlong
    rcases Text.exists_longestStart text e.maxOutputBytes with ⟨kept, hkept, hsearch, hslice⟩
    have hstart : Text.startBefore? text e.maxOutputBytes = some kept := by
      rw [Text.startBefore?, hsearch, Option.bind_some, hslice]
    refine ⟨kept, ?_, hkept, hkept.le_byteLength_add_three hlong, hkept.eq_nil_iff hlong, hsearch,
      hslice⟩
    rw [captured, htext, truncate, if_neg (by omega)]
    simp only [hstart, Option.get_some, String.ofList_append, String.ofList_toList,
      String.append_assoc]

/-- Behind a letter one or two pieces that begin no character; the limit lies inside the character
that stands for the second one. -/
theorem torn_keeps_one_replacement :
    (byteLength (decodeLossy [0x61, 0xE2, 0x82]) <= 5 ∧
      captured { maxOutputBytes := 5 } [0x61, 0xE2, 0x82] = "a\uFFFD") ∧
    (5 < byteLength (decodeLossy [0x61, 0xE2, 0x82, 0xC3]) ∧
      captured { maxOutputBytes := 5 } [0x61, 0xE2, 0x82, 0xC3] =
        "a\uFFFD...[truncated, 7 bytes total]") := by
  constructor
  · have hshort : byteLength (decodeLossy [0x61, 0xE2, 0x82]) <= 5 := by decide +kernel
    refine ⟨hshort, ?_⟩
    rw [(captured_keeps_longest_start { maxOutputBytes := 5 } _).left hshort]
    decide +kernel
  · have hlong : 5 < byteLength (decodeLossy [0x61, 0xE2, 0x82, 0xC3]) := by decide +kernel
    have hsearch : boundaryBefore? (decodeLossy [0x61, 0xE2, 0x82, 0xC3]) 5 = some 4 := by
      decide +kernel
    have hslice : slice? (decodeLossy [0x61, 0xE2, 0x82, 0xC3]) 0 4 = some ['a', '\uFFFD'] := by
      decide +kernel
    rcases (captured_keeps_longest_start { maxOutputBytes := 5 } _).right hlong with
      ⟨kept, hcaptured, _, _, _, hstop, hkept⟩
    rw [hsearch, Option.some.injEq] at hstop
    rw [← hstop, hslice, Option.some.injEq] at hkept
    refine ⟨hlong, ?_⟩
    rw [hcaptured, ← hkept]
    decide +kernel

end Executor
end Script
end Colloquy
