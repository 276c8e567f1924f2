import Colloquy.Text.Bytes

/-!
# Slices of texts

A cut at a byte is a cut between two parts of a text, the first of which has as many
bytes.  Of two beginnings of one text, the one with fewer bytes begins the other.
-/

namespace Colloquy
namespace Text

variable {cs ds front back : List Char} {n start stop : Nat}

@[simp] theorem byteLength_nil : byteLength [] = 0 :=
  rfl

@[simp] theorem byteLength_cons {c : Char} : byteLength (c :: cs) = c.utf8Size + byteLength cs :=
  rfl

@[simp] theorem byteLength_append : byteLength (cs ++ ds) = byteLength cs + byteLength ds := by
  induction cs with
  | nil => rw [List.nil_append, byteLength_nil, Nat.zero_add]
  | cons c cs ih => rw [List.cons_append, byteLength_cons, byteLength_cons, ih, Nat.add_assoc]

theorem byteLength_eq_zero_iff : byteLength cs = 0 <-> cs = [] := by
  cases cs with
  | nil => exact ⟨fun _ => rfl, fun _ => rfl⟩
  | cons c cs =>
      have hpos := c.utf8Size_pos
      rw [byteLength_cons]
      constructor
      · intro h
        omega
      · intro h
        cases h

theorem splitBytes?_eq_some_iff :
    splitBytes? n cs = some (front, back) <-> cs = front ++ back ∧ byteLength front = n := by
  induction cs generalizing n front with
  | nil =>
      cases n with
      | zero =>
          rw [splitBytes?]
          constructor
          · intro h
            cases h
            exact ⟨rfl, rfl⟩
          · rintro ⟨h, _⟩
            rcases List.append_eq_nil_iff.mp h.symm with ⟨rfl, rfl⟩
            rfl
      | succ n =>
          rw [splitBytes?]
          constructor
          · intro h
            cases h
          · rintro ⟨h, hlength⟩
            rcases List.append_eq_nil_iff.mp h.symm with ⟨rfl, rfl⟩
            cases hlength
  | cons c rest ih =>
      cases n with
      | zero =>
          rw [splitBytes?]
          constructor
          · intro h
            cases h
            exact ⟨rfl, rfl⟩
          · rintro ⟨h, hlength⟩
            rw [byteLength_eq_zero_iff] at hlength
            rw [h, hlength]
            rfl
      | succ n =>
          have hpos := c.utf8Size_pos
          rw [splitBytes?]
          constructor
          · intro h
            split at h
            · split at h
              · rename_i hfits front' back' hsplit
                cases h
                rcases ih.mp hsplit with ⟨hrest, hlength⟩
                refine ⟨by rw [hrest, List.cons_append], ?_⟩
                rw [byteLength_cons, hlength]
                omega
              · cases h
            · cases h
          · rintro ⟨h, hlength⟩
            cases front with
            | nil => cases hlength
            | cons c' front =>
                rw [List.cons_append, List.cons.injEq] at h
                rcases h with ⟨rfl, hrest⟩
                rw [byteLength_cons] at hlength
                have hsplit : splitBytes? (n + 1 - c.utf8Size) rest = some (front, back) :=
                  ih.mpr ⟨hrest, by omega⟩
                rw [if_pos (by omega), hsplit]

theorem dropBytes?_eq_some_iff :
    dropBytes? n cs = some back <-> exists front, cs = front ++ back ∧ byteLength front = n := by
  rw [dropBytes?, Option.map_eq_some_iff]
  constructor
  · rintro ⟨⟨front, back'⟩, hsplit, rfl⟩
    exact ⟨front, splitBytes?_eq_some_iff.mp hsplit⟩
  · rintro ⟨front, h⟩
    exact ⟨(front, back), splitBytes?_eq_some_iff.mpr h, rfl⟩

theorem slice?_eq_some_iff : slice? cs start stop = some ds <->
    exists front back, cs = front ++ (ds ++ back) ∧ byteLength front = start ∧
      byteLength ds = stop - start := by
  rw [slice?, Option.bind_eq_some_iff]
  constructor
  · rintro ⟨tail, htail, hslice⟩
    rcases dropBytes?_eq_some_iff.mp htail with ⟨front, hcs, hfront⟩
    rcases Option.map_eq_some_iff.mp hslice with ⟨⟨ds', back⟩, hsplit, rfl⟩
    rcases splitBytes?_eq_some_iff.mp hsplit with ⟨rfl, hds⟩
    exact ⟨front, back, hcs, hfront, hds⟩
  · rintro ⟨front, back, hcs, hfront, hds⟩
    refine ⟨ds ++ back, dropBytes?_eq_some_iff.mpr ⟨front, hcs, hfront⟩, ?_⟩
    exact Option.map_eq_some_iff.mpr ⟨(ds, back), splitBytes?_eq_some_iff.mpr ⟨rfl, hds⟩, rfl⟩

theorem prefix_of_byteLength_le {a b : List Char} (ha : a <+: cs) (hb : b <+: cs)
    (hle : byteLength a <= byteLength b) : a <+: b := by
  rcases List.prefix_or_prefix_of_prefix ha hb with h | h
  · exact h
  · rcases h with ⟨rest, rfl⟩
    rw [byteLength_append] at hle
    have hrest : rest = [] := byteLength_eq_zero_iff.mp (by omega)
    exact ⟨[], by rw [hrest, List.append_nil, List.append_nil]⟩

/-!
# Beginnings with a number of bytes
-/

theorem takeBytes_append : takeBytes (byteLength front) (front ++ back) = front := by
  induction front with
  | nil =>
      cases back with
      | nil => rfl
      | cons c rest =>
          have hpos := c.utf8Size_pos
          rw [byteLength_nil, List.nil_append, takeBytes, if_neg (by omega)]
  | cons c front ih =>
      rw [List.cons_append, byteLength_cons, takeBytes, if_pos (Nat.le_add_right _ _),
        Nat.add_sub_cancel_left, ih]

theorem takeBytes_prefix_of_le (h : start <= stop) : takeBytes start cs <+: takeBytes stop cs := by
  induction cs generalizing start stop with
  | nil => exact List.prefix_refl _
  | cons c rest ih =>
      rw [takeBytes, takeBytes]
      split
      · rw [if_pos (by omega)]
        exact (List.prefix_cons_inj c).mpr (ih (Nat.sub_le_sub_right h _))
      · exact List.nil_prefix

theorem takeBytes_prefix : takeBytes n cs <+: cs := by
  induction cs generalizing n with
  | nil => exact List.prefix_refl _
  | cons c rest ih =>
      rw [takeBytes]
      split
      · exact (List.prefix_cons_inj c).mpr ih
      · exact List.nil_prefix

end Text
end Colloquy
