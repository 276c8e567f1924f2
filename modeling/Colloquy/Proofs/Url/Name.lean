import Colloquy.Url.Parse

/-!
# Names have no separators

The characters that separate the parts of an address pass unchanged through everything that is
done to a name before it is checked: the reading of its bytes, the composition, and the writing
of its labels.  The check refuses them, so no name has one.
-/

namespace Colloquy
namespace Url

/-- The blanks, and the characters that can end a host. -/
def separates (c : Char) : Bool :=
  c.toNat <= 0x20 || "#/:?@[\\]".toList.contains c

variable {c : Char} {cs name : List Char} {b : UInt8} {bytes : List UInt8}

theorem toNat_lt_of_separates (hc : separates c = true) : c.toNat < 0x80 := by
  simp [separates] at hc
  rcases hc with hblank | rfl | rfl | rfl | rfl | rfl | rfl | rfl | rfl
  · omega
  all_goals decide

/-- What holds of those of the first characters that satisfy `s` holds of all that do, if no
others do. -/
theorem of_ascii {s p : Char -> Bool} (hlt : c.toNat < 0x80) (hc : s c = true)
    (h : forall n, n < 0x80 -> s (Char.ofNat n) = true -> p (Char.ofNat n) = true) :
    p c = true := by
  have hp := h c.toNat hlt
  rw [Char.ofNat_toNat] at hp
  exact hp hc

theorem of_separates {p : Char -> Bool} (hc : separates c = true)
    (h : forall n, n < 0x80 -> separates (Char.ofNat n) = true -> p (Char.ofNat n) = true) :
    p c = true :=
  of_ascii (toNat_lt_of_separates hc) hc h

/-!
# The bytes of a name

A separator is one byte, and no other character is read from this byte.
-/

theorem encode_singleton (hc : c.toNat < 0x80) : Text.encode [c] = [UInt8.ofNat c.toNat] := by
  simp [Text.encode, String.utf8EncodeChar]
  omega

theorem mem_percentDecode (hc : separates c = true) (h : c ∈ cs) :
    UInt8.ofNat c.toNat ∈ percentDecode cs := by
  have hpercent : c ≠ '%' := by
    simpa using of_separates (p := (· != '%')) hc (by decide)
  have hhex : Text.hexValue? c = none := by
    simpa using of_separates (p := fun c => (Text.hexValue? c).isNone) hc (by decide)
  induction cs using percentDecode.induct with
  | case1 => cases h
  | case2 x y rest n m hy hx ih =>
      have hrest : c ∈ rest := by
        simp only [List.mem_cons] at h
        rcases h with rfl | rfl | rfl | h
        · exact absurd rfl hpercent
        · rw [hhex] at hx
          cases hx
        · rw [hhex] at hy
          cases hy
        · exact h
      rw [percentDecode, hx, hy]
      exact List.mem_cons_of_mem _ (ih hrest)
  | case3 x y rest hno ih =>
      rw [percentDecode]
      split
      · rename_i n m hx hy
        exact absurd hy (hno n m hx)
      · exact List.mem_append_right _ (ih (List.mem_of_ne_of_mem hpercent h))
  | case4 d rest hno ih =>
      rw [percentDecode.eq_3 d rest hno]
      rcases List.mem_cons.mp h with rfl | h
      · rw [encode_singleton (toNat_lt_of_separates hc)]
        exact List.mem_append_left _ (List.mem_singleton_self _)
      · exact List.mem_append_right _ (ih h)

theorem exists_taken (more bits : Nat) (bytes : List UInt8) :
    exists taken, bytes = taken ++ (Text.takeContinuation more bits bytes).2 ∧
      forall b, b ∈ taken -> 0x80 <= b := by
  induction more, bits, bytes using Text.takeContinuation.induct with
  | case1 bits rest => exact ⟨[], by simp [Text.takeContinuation], by simp⟩
  | case2 n bits => exact ⟨[], by simp [Text.takeContinuation], by simp⟩
  | case3 more bits b rest hb ih =>
      rcases ih with ⟨taken, hrest, htaken⟩
      refine ⟨b :: taken, ?_, ?_⟩
      · rw [Text.takeContinuation, if_pos hb]
        exact congrArg (b :: ·) hrest
      · intro x hx
        rcases List.mem_cons.mp hx with rfl | hx
        · simp [Text.isContinuation] at hb
          exact hb.left
        · exact htaken x hx
  | case4 more bits b rest hb =>
      exact ⟨[], by rw [Text.takeContinuation, if_neg hb]; rfl, by simp⟩

theorem le_low_of_ofByte? {lead : Text.Lead} (h : Text.Lead.ofByte? b = some lead) :
    0x80 <= lead.low := by
  unfold Text.Lead.ofByte? at h
  grind

theorem exists_continuation (b : UInt8) (rest : List UInt8) (hb : 0x80 <= b) :
    exists taken, rest = taken ++ (Text.readChar b rest).2 ∧ forall x, x ∈ taken -> 0x80 <= x := by
  unfold Text.readChar
  split
  · rename_i hlow
    exact absurd hlow (by simpa using hb)
  · split
    · exact ⟨[], rfl, by simp⟩
    · exact ⟨[], rfl, by simp⟩
    · rename_i lead second tail hlead
      split
      · rename_i hsecond
        rcases exists_taken lead.more (lead.bits * 64 + (second.toNat - 0x80)) tail with
          ⟨taken, htail, htaken⟩
        refine ⟨second :: taken, congrArg (second :: ·) htail, ?_⟩
        intro x hx
        rcases List.mem_cons.mp hx with rfl | hx
        · simp only [Bool.and_eq_true, decide_eq_true_eq] at hsecond
          exact UInt8.le_trans (le_low_of_ofByte? hlead) hsecond.left
        · exact htaken x hx
      · exact ⟨[], rfl, by simp⟩

theorem readChar_of_lt (hb : b < 0x80) :
    Text.readChar b bytes = (some (Char.ofNat b.toNat), bytes) := by
  unfold Text.readChar
  exact if_pos hb

theorem mem_of_decode? (h : Text.decode? bytes = some name) (hmem : b ∈ bytes) (hb : b < 0x80) :
    Char.ofNat b.toNat ∈ name := by
  induction bytes using Text.decode?.induct generalizing name with
  | case1 => cases hmem
  | case2 first rest hbroken =>
      rw [Text.decode?, hbroken] at h
      cases h
  | case3 first rest d hread ih =>
      rw [Text.decode?, hread] at h
      rcases Option.map_eq_some_iff.mp h with ⟨more, hmore, rfl⟩
      by_cases hfirst : first < 0x80
      · rw [readChar_of_lt hfirst] at hread hmore ih
        rcases List.mem_cons.mp hmem with rfl | hmem
        · cases hread
          exact List.mem_cons_self
        · exact List.mem_cons_of_mem _ (ih hmore hmem)
      · -- The bytes that a longer character takes are not ASCII, so the byte is still there.
        rcases exists_continuation first rest (UInt8.not_lt.mp hfirst) with ⟨taken, hrest, htaken⟩
        have hrest' : b ∈ (Text.readChar first rest).2 := by
          rcases List.mem_cons.mp hmem with rfl | hmem
          · exact absurd hb hfirst
          · rw [hrest, List.mem_append] at hmem
            rcases hmem with hmem | hmem
            · exact absurd hb (UInt8.not_lt.mpr (htaken b hmem))
            · exact hmem
        exact List.mem_cons_of_mem _ (ih hmore hrest')

theorem mem_of_decode?_percentDecode (hc : separates c = true) (h : c ∈ cs)
    (hname : Text.decode? (percentDecode cs) = some name) : c ∈ name := by
  have hlt := toNat_lt_of_separates hc
  have htoNat : (UInt8.ofNat c.toNat).toNat = c.toNat :=
    UInt8.toNat_ofNat_of_lt (by show c.toNat < 256; omega)
  have hbyte : UInt8.ofNat c.toNat < 0x80 := by
    rw [UInt8.lt_iff_toNat_lt, htoNat]
    exact hlt
  have hmem := mem_of_decode? hname (mem_percentDecode hc h) hbyte
  rw [htoNat, Char.ofNat_toNat] at hmem
  exact hmem

/-!
# The composed form of a name

A separator joins with no character before or behind it, so composing leaves it alone.
-/

structure Solitary (n : Nat) : Prop where
  first : forall m, Unicode.join? n m = none
  second : forall m, Unicode.join? m n = none

theorem joinSyllable?_of_lt {m n : Nat} (h : m < 0x80 ∨ n < 0x80) :
    Unicode.joinSyllable? m n = none := by
  unfold Unicode.joinSyllable? Unicode.isSyllable Unicode.leadBase Unicode.vowelBase
    Unicode.tailBase Unicode.syllableBase
  rw [if_neg (by simp; omega), if_neg (by simp; omega)]

theorem solitary_of_separates (hc : separates c = true) : Solitary c.toNat := by
  have hlt := toNat_lt_of_separates hc
  have htakes : Unicode.takesMarks c.toNat = false := by
    simpa using of_separates (p := fun c => !Unicode.takesMarks c.toNat) hc (by decide)
  constructor
  · intro m
    rw [Unicode.join?, joinSyllable?_of_lt (Or.inl hlt)]
    simp [htakes]
  · intro m
    have hmark : ¬Unicode.firstMark <= c.toNat := Nat.not_le_of_lt (Nat.lt_trans hlt (by decide))
    rw [Unicode.join?, joinSyllable?_of_lt (Or.inr hlt)]
    simp [hmark]

theorem mem_placeMark_iff {m n : Nat} {ns : List Nat} :
    n ∈ Unicode.placeMark m ns <-> n = m ∨ n ∈ ns := by
  induction ns with
  | nil => simp [Unicode.placeMark]
  | cons k ns ih =>
      rw [Unicode.placeMark]
      split
      · exact List.mem_cons
      · rw [List.mem_cons, ih, List.mem_cons]
        exact or_left_comm

theorem mem_orderMarks_iff {n : Nat} {ns : List Nat} : n ∈ Unicode.orderMarks ns <-> n ∈ ns := by
  induction ns with
  | nil => rfl
  | cons m ns ih =>
      rw [Unicode.orderMarks, List.foldr_cons, mem_placeMark_iff, List.mem_cons]
      exact or_congr_right ih

namespace Solitary

variable {n letter : Nat} {kept ns : List Nat}

theorem mem_joinFrom (hn : Solitary n) (h : n = letter ∨ n ∈ kept ∨ n ∈ ns) :
    n ∈ Unicode.joinFrom letter kept ns := by
  induction ns generalizing letter kept with
  | nil => simpa [Unicode.joinFrom] using h
  | cons m rest ih =>
      unfold Unicode.joinFrom
      dsimp only
      split
      · -- The pair that is joined here is another one.
        rename_i joined hfree
        rcases Option.ite_none_right_eq_some.mp hfree with ⟨_, hjoined⟩
        refine ih ?_
        rcases h with rfl | h | h
        · rw [hn.first] at hjoined
          cases hjoined
        · exact Or.inr (Or.inl h)
        · rcases List.mem_cons.mp h with rfl | h
          · rw [hn.second] at hjoined
            cases hjoined
          · exact Or.inr (Or.inr h)
      · split
        · rw [List.cons_append, List.mem_cons, List.mem_append, List.mem_reverse]
          rcases h with h | h | h
          · exact Or.inl h
          · exact Or.inr (Or.inl h)
          · refine Or.inr (Or.inr (ih ?_))
            rcases List.mem_cons.mp h with h | h
            · exact Or.inl h
            · exact Or.inr (Or.inr h)
        · refine ih ?_
          rcases h with h | h | h
          · exact Or.inl h
          · exact Or.inr (Or.inl (List.mem_cons_of_mem _ h))
          · rcases List.mem_cons.mp h with rfl | h
            · exact Or.inr (Or.inl List.mem_cons_self)
            · exact Or.inr (Or.inr h)

theorem mem_joinAll (hn : Solitary n) (h : n ∈ ns) : n ∈ Unicode.joinAll ns := by
  induction ns with
  | nil => cases h
  | cons m rest ih =>
      rw [Unicode.joinAll]
      split
      · exact hn.mem_joinFrom (by simpa using h)
      · rcases List.mem_cons.mp h with rfl | h
        · exact List.mem_cons_self
        · exact List.mem_cons_of_mem _ (ih h)

end Solitary

theorem mem_uniform (hc : separates c = true) (h : c ∈ name) : c ∈ Domain.uniform name := by
  have hlt := toNat_lt_of_separates hc
  have hlower : c.toLower = c := by
    simpa using of_separates (p := fun c => c.toLower == c) hc (by decide)
  have hcomparable : c ∈ name.flatMap Unicode.comparable := by
    refine List.mem_flatMap.mpr ⟨c, h, ?_⟩
    rw [Unicode.comparable, if_pos hlt, hlower]
    exact List.mem_singleton_self c
  have hparts :
      c.toNat ∈ (name.flatMap Unicode.comparable).flatMap fun c => Unicode.parts c.toNat := by
    refine List.mem_flatMap.mpr ⟨c, hcomparable, ?_⟩
    rw [Unicode.parts, if_pos hlt]
    exact List.mem_singleton_self _
  have hjoined := (solitary_of_separates hc).mem_joinAll (mem_orderMarks_iff.mpr hparts)
  rw [Domain.uniform, Unicode.compose]
  exact List.mem_map.mpr ⟨c.toNat, hjoined, Char.ofNat_toNat c⟩

/-!
# The check of a name

A label that has a separator is not sent.
-/

theorem mem_intercalate_iff {sep : List Char} {parts : List (List Char)} (hsep : c ∉ sep) :
    c ∈ sep.intercalate parts <-> exists part, part ∈ parts ∧ c ∈ part := by
  induction parts with
  | nil => simp
  | cons part rest ih =>
      cases rest with
      | nil => simp
      | cons next rest =>
          rw [List.intercalate_cons_cons, List.mem_append, List.mem_append, ih]
          simp [hsep]

theorem exists_mem_splitOn {sep : Char} (h : c ∈ cs) (hsep : c ≠ sep) :
    exists part, part ∈ cs.splitOn sep ∧ c ∈ part := by
  have hjoined : c ∈ [sep].intercalate (cs.splitOn sep) := by
    rw [List.intercalate_splitOn]
    exact h
  exact (mem_intercalate_iff (by simpa using hsep)).mp hjoined

theorem exists_of_mapM {f : α -> Option β} {as : List α} {bs : List β} {a : α}
    (h : as.mapM f = some bs) (ha : a ∈ as) : exists b, b ∈ bs ∧ f a = some b := by
  induction as generalizing bs with
  | nil => cases ha
  | cons a' as ih =>
      rw [List.mapM_cons] at h
      rcases Option.bind_eq_some_iff.mp h with ⟨b, hb, h⟩
      rcases Option.bind_eq_some_iff.mp h with ⟨more, hmore, h⟩
      cases h
      rcases List.mem_cons.mp ha with rfl | ha
      · exact ⟨b, List.mem_cons_self, hb⟩
      · rcases ih hmore ha with ⟨b', hmem, hb'⟩
        exact ⟨b', List.mem_cons_of_mem _ hmem, hb'⟩

theorem mem_encode (hc : Punycode.isBasic c = true) (h : c ∈ cs) : c ∈ Punycode.encode cs := by
  have hbasic : c ∈ cs.filter Punycode.isBasic := List.mem_filter.mpr ⟨h, hc⟩
  rw [Punycode.encode, if_neg (by
    rw [List.isEmpty_iff]
    exact List.ne_nil_of_mem hbasic)]
  exact List.mem_append_left _ (List.mem_append_left _ hbasic)

theorem mem_of_sentLabel? {label : List Char} (hc : Punycode.isBasic c = true)
    (hsent : Domain.sentLabel? cs = some label) (h : c ∈ cs) : c ∈ label := by
  unfold Domain.sentLabel? at hsent
  split at hsent
  · rcases Option.map_eq_some_iff.mp hsent with ⟨_, _, rfl⟩
    exact h
  · split at hsent
    · cases hsent
    · split at hsent
      · cases hsent
        exact h
      · cases hsent
        exact List.mem_append_right ['x', 'n', '-', '-'] (mem_encode hc h)

/-- No name has a separator. -/
theorem sent?_eq_none (hc : separates c = true) (h : c ∈ name) : Domain.sent? name = none := by
  have hpoint : c ≠ '.' := by
    simpa using of_separates (p := (· != '.')) hc (by decide)
  have hdenied : Domain.isDenied c = true := of_separates hc (by decide)
  have hbasic : Punycode.isBasic c = true := of_separates hc (by decide)
  rcases exists_mem_splitOn (mem_uniform hc h) hpoint with ⟨label, hlabel, hmem⟩
  rw [Domain.sent?]
  split
  · rfl
  · rename_i labels hsent
    rcases exists_of_mapM hsent hlabel with ⟨sent, hin, hone⟩
    have hkept : c ∈ sent := mem_of_sentLabel? hbasic hone hmem
    have hsome : c ∈ ['.'].intercalate labels :=
      (mem_intercalate_iff (by simpa using hpoint)).mpr ⟨sent, hin, hkept⟩
    exact if_pos (List.any_eq_true.mpr ⟨c, hsome, hdenied⟩)

end Url
end Colloquy
