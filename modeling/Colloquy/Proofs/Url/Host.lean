import Colloquy.Proofs.Url.Name

/-!
# Hosts are read as a whole

No name has a separator, and an address in brackets has only digits, points and colons.  So a
text that is read as a host has nothing in it that would be taken for another part of an address.
-/

namespace Colloquy
namespace Url

variable {c : Char} {cs : List Char}

/-!
# Addresses in brackets

All that is read within the brackets are digits, points and colons.
-/

def isSixthChar (c : Char) : Bool :=
  (Text.hexValue? c).isSome || c == '.' || c == ':'

theorem isSome_of_foldl {f : β -> Option γ} {g : α -> γ -> α} {start : Option α}
    {bs : List β} {a : α}
    (h : bs.foldl (fun a? b => do return g (<- a?) (<- f b)) start = some a) :
    start.isSome = true ∧ forall b, b ∈ bs -> (f b).isSome = true := by
  induction bs generalizing start with
  | nil =>
      rw [List.foldl_nil] at h
      simp [h]
  | cons b bs ih =>
      rcases ih h with ⟨hfirst, hrest⟩
      rcases Option.isSome_iff_exists.mp hfirst with ⟨a', ha'⟩
      rcases Option.bind_eq_some_iff.mp ha' with ⟨x, hx, ha'⟩
      rcases Option.bind_eq_some_iff.mp ha' with ⟨y, hy, _⟩
      simp [hx, hy]
      exact hrest

theorem isSixthChar_of_group? {n : Nat} (h : group? cs = some n) (hc : c ∈ cs) :
    isSixthChar c = true := by
  rw [group?] at h
  split at h
  · cases h
  · have hdigit := (isSome_of_foldl (f := Text.hexValue?) (g := fun n d => 16 * n + d) h).right
    rw [isSixthChar, hdigit c hc]
    rfl

theorem isSixthChar_of_byte? {n : Nat} (h : byte? cs = some n) (hc : c ∈ cs) :
    isSixthChar c = true := by
  rw [byte?] at h
  split at h
  · cases h
  · rename_i hbyte
    simp at hbyte
    have hdigit := hbyte.left.left.right c hc
    simp [isSixthChar, Text.hexValue?, hdigit]

theorem isSixthChar_of_byteGroups? {groups : List Nat} (h : byteGroups? cs = some groups)
    (hc : c ∈ cs) : isSixthChar c = true := by
  by_cases hpoint : c = '.'
  · rw [hpoint]
    decide
  · rcases exists_mem_splitOn hc hpoint with ⟨part, hpart, hmem⟩
    rw [byteGroups?] at h
    split at h
    · rename_i hbytes
      rcases exists_of_mapM hbytes hpart with ⟨byte, _, hbyte⟩
      exact isSixthChar_of_byte? hbyte hmem
    · cases h

theorem isSixthChar_of_groups? {bytes : Bool} {parts : List (List Char)} {part : List Char}
    {groups : List Nat} (h : groups? bytes parts = some groups) (hpart : part ∈ parts)
    (hc : c ∈ part) : isSixthChar c = true := by
  induction parts generalizing groups with
  | nil => cases hpart
  | cons first rest ih =>
      cases rest with
      | nil =>
          rw [List.mem_singleton] at hpart
          subst hpart
          rw [groups?] at h
          split at h
          · exact isSixthChar_of_byteGroups? h hc
          · rcases Option.map_eq_some_iff.mp h with ⟨n, hn, _⟩
            exact isSixthChar_of_group? hn hc
      | cons next rest =>
          rw [groups?.eq_3 _ _ _ (by simp)] at h
          rcases Option.bind_eq_some_iff.mp h with ⟨n, hn, h⟩
          rcases Option.bind_eq_some_iff.mp h with ⟨more, hmore, h⟩
          rcases List.mem_cons.mp hpart with rfl | hpart
          · exact isSixthChar_of_group? hn hc
          · exact ih hmore hpart

theorem isSixthChar_of_splitOn {bytes : Bool} {groups : List Nat}
    (h : groups? bytes (cs.splitOn ':') = some groups) (hc : c ∈ cs) : isSixthChar c = true := by
  by_cases hcolon : c = ':'
  · rw [hcolon]
    decide
  · rcases exists_mem_splitOn hc hcolon with ⟨part, hpart, hmem⟩
    exact isSixthChar_of_groups? h hpart hmem

theorem isSixthChar_of_side? {bytes : Bool} {groups : List Nat}
    (h : side? bytes cs = some groups) (hc : c ∈ cs) : isSixthChar c = true := by
  rw [side?, if_neg (by
    rw [List.isEmpty_iff]
    exact List.ne_nil_of_mem hc)] at h
  exact isSixthChar_of_splitOn h hc

theorem eq_of_cutColons {left right : List Char} (h : cutColons cs = some (left, right)) :
    cs = left ++ ':' :: ':' :: right := by
  induction cs using cutColons.induct generalizing left with
  | case1 => cases h
  | case2 rest =>
      cases h
      rfl
  | case3 d rest hno ih =>
      rw [cutColons.eq_3 _ _ hno] at h
      rcases Option.map_eq_some_iff.mp h with ⟨⟨left', right'⟩, hrest, heq⟩
      cases heq
      rw [ih hrest]
      rfl

theorem isSixthChar_of_sixth? {groups : List Nat} (h : sixth? cs = some groups) (hc : c ∈ cs) :
    isSixthChar c = true := by
  rw [sixth?] at h
  split at h
  · exact isSixthChar_of_splitOn (Option.filter_eq_some_iff.mp h).left hc
  · rename_i left right hcut
    rcases Option.bind_eq_some_iff.mp h with ⟨before, hbefore, h⟩
    rcases Option.bind_eq_some_iff.mp h with ⟨behind, hbehind, _⟩
    rw [eq_of_cutColons hcut] at hc
    simp only [List.mem_append, List.mem_cons] at hc
    rcases hc with hc | rfl | rfl | hc
    · exact isSixthChar_of_side? hbefore hc
    · decide
    · decide
    · exact isSixthChar_of_side? hbehind hc

/-!
# Host texts

A host text has no character that ends a host, and a colon only within brackets.
-/

/-- Whether a character stands neither around an address nor between its authority and
another part. -/
def isPlain (c : Char) : Bool :=
  !surrounds c && !"#/?@\\".toList.contains c

/-- A text that is one host, which nothing in it ends. -/
structure IsWhole (cs : List Char) : Prop where
  ne_nil : cs ≠ []
  plain : forall c, c ∈ cs -> isPlain c = true
  split : forall rest, splitHost false rest = ([], rest) ->
    splitHost false (cs ++ rest) = (cs, rest)

theorem toNat_lt_of_hexValue? (hc : (Text.hexValue? c).isSome = true) : c.toNat < 0x80 := by
  grind [Text.hexValue?, Char.isDigit, Char.toNat, Char.le_def, UInt32.le_iff_toNat_le]

theorem isPlain_of_isSixthChar (hc : isSixthChar c = true) :
    isPlain c = true ∧ c ≠ '[' ∧ c ≠ ']' := by
  have hlt : c.toNat < 0x80 := by
    simp only [isSixthChar, Bool.or_eq_true, beq_iff_eq] at hc
    rcases hc with (hhex | rfl) | rfl
    · exact toNat_lt_of_hexValue? hhex
    · decide
    · decide
  have hp := of_ascii (p := fun c => isPlain c && c != '[' && c != ']') hlt hc (by decide)
  simpa [and_assoc] using hp

theorem splitHost_append {inside : Bool} {rest : List Char}
    (h : forall c, c ∈ cs -> c ≠ '[' ∧ c ≠ ']' ∧ (c = ':' -> inside = true)) :
    splitHost inside (cs ++ rest) =
      (cs ++ (splitHost inside rest).1, (splitHost inside rest).2) := by
  induction cs with
  | nil => rfl
  | cons c cs ih =>
      rcases h c List.mem_cons_self with ⟨hopen, hclose, hcolon⟩
      have hrest := ih fun d hd => h d (List.mem_cons_of_mem _ hd)
      rw [List.cons_append, splitHost, if_neg (by simpa using hcolon)]
      simp [hopen, hclose, hrest]

theorem isWhole_of_bracketed {host : Host} (hopen : isBracketed cs = true)
    (h : bracketed cs = .ok host) : IsWhole cs := by
  rw [bracketed] at h
  split at h
  · rename_i hclose
    split at h
    · rename_i groups hgroups
      have hcs : exists inner, cs = '[' :: (inner ++ [']']) := by
        rcases List.getLast?_eq_some_iff.mp (eq_of_beq hclose) with ⟨front, rfl⟩
        cases front with
        | nil => cases hopen
        | cons d inner =>
            have hd : d = '[' := by simpa [isBracketed] using hopen
            exact ⟨inner, by rw [hd]; rfl⟩
      rcases hcs with ⟨inner, rfl⟩
      rw [List.drop_one, List.tail_cons, List.dropLast_concat] at hgroups
      have hinner : forall c, c ∈ inner -> isPlain c = true ∧ c ≠ '[' ∧ c ≠ ']' :=
        fun c hc => isPlain_of_isSixthChar (isSixthChar_of_sixth? hgroups hc)
      constructor
      · exact List.cons_ne_nil _ _
      · intro c hc
        simp only [List.mem_cons, List.mem_append, List.not_mem_nil, or_false] at hc
        rcases hc with rfl | hc | rfl
        · decide
        · exact (hinner c hc).left
        · decide
      · intro rest hrest
        have hinside : splitHost true (inner ++ ']' :: rest) =
            (inner ++ (splitHost true (']' :: rest)).1, (splitHost true (']' :: rest)).2) :=
          splitHost_append fun c hc =>
            ⟨(hinner c hc).right.left, (hinner c hc).right.right, fun _ => rfl⟩
        simp [splitHost, hinside, hrest]
    · cases h
  · cases h

theorem isWhole_of_no_separators (hne : cs ≠ []) (h : forall c, c ∈ cs -> separates c = false) :
    IsWhole cs := by
  constructor
  · exact hne
  · intro c hc
    have hno := h c hc
    simp [separates] at hno
    simp [isPlain, surrounds, hno]
  · intro rest hrest
    have hends : forall c, c ∈ cs -> c ≠ '[' ∧ c ≠ ']' ∧ (c = ':' -> false = true) := by
      intro c hc
      have hno := h c hc
      simp [separates] at hno
      simp [hno]
    rw [splitHost_append hends, hrest, List.append_nil]

theorem exists_sent_of_specialHost {host : Host} (hopen : ¬isBracketed cs = true)
    (h : specialHost cs = .ok host) : cs ≠ [] ∧ exists name sent,
      Text.decode? (percentDecode cs) = some name ∧ Domain.sent? name = some sent := by
  rw [specialHost, if_neg hopen] at h
  split at h
  · cases h
  · cases h
  · rename_i sent hsome hread
    constructor
    · -- An empty name could be sent, but it is refused as a host.
      rintro rfl
      have hnil : (Text.decode? (percentDecode [])).bind Domain.sent? = some [] := by
        decide +kernel
      rw [hread, Option.some.injEq] at hnil
      exact hsome hnil
    · rcases Option.bind_eq_some_iff.mp hread with ⟨name, hname, hsent⟩
      exact ⟨name, sent, hname, hsent⟩

/-- A text that is read as a host is one host. -/
theorem isWhole_of_specialHost {host : Host} (h : specialHost cs = .ok host) : IsWhole cs := by
  by_cases hopen : isBracketed cs = true
  · rw [specialHost, if_pos hopen] at h
    exact isWhole_of_bracketed hopen h
  · rcases exists_sent_of_specialHost hopen h with ⟨hne, name, sent, hname, hsent⟩
    apply isWhole_of_no_separators hne
    intro c hc
    cases hseparates : separates c with
    | false => rfl
    | true =>
        have hmem : c ∈ name := mem_of_decode?_percentDecode hseparates hc hname
        rw [sent?_eq_none hseparates hmem] at hsent
        cases hsent

end Url
end Colloquy
