import Colloquy.Proofs.Url.Host

/-!
# Addresses of a host and a port

An address that is written as a scheme, a host and perhaps a port is read as these, with the
host in the form in which it is sent.  A port that is the usual one of the scheme is not kept.
-/

namespace Colloquy
namespace Url

/-- What is written to name a server: a scheme, a host, perhaps a port, and perhaps a slash. -/
structure Site where
  scheme : String
  host : String
  port : Option Nat := none
  /-- How many zeros stand in front of the port. -/
  zeros : Nat := 0
  slash : Bool := false

namespace Site

def portText (s : Site) : String :=
  match s.port with
  | some port => ":" ++ String.ofList (List.replicate s.zeros '0') ++ toString port
  | none => ""

def text (s : Site) : String :=
  s.scheme ++ "://" ++ s.host ++ s.portText ++ (if s.slash then "/" else "")

end Site

variable {c : Char} {cs scheme hostText behind : List Char} {host : Host} {usual : Nat}

/-!
# Blanks
-/

theorem surrounds_of_isPlain (h : isPlain c = true) : surrounds c = false := by
  simp only [isPlain, Bool.and_eq_true, Bool.not_eq_true'] at h
  exact h.left

theorem surrounds_of_isAlpha (h : c.isAlpha = true) : surrounds c = false := by
  cases hblank : surrounds c with
  | false => rfl
  | true =>
      have hlt : c.toNat < 0x80 := by
        simp [surrounds] at hblank
        omega
      have hno := of_ascii (p := fun c => !c.isAlpha) hlt hblank (by decide)
      rw [h] at hno
      cases hno

theorem dropWhile_surrounds (h : forall c, c ∈ cs -> surrounds c = false) :
    cs.dropWhile surrounds = cs := by
  cases cs with
  | nil => rfl
  | cons c rest => simp [h c List.mem_cons_self]

theorem parse_of_no_blanks {text scheme : String}
    (h : forall c, c ∈ text.toList -> surrounds c = false)
    (hscheme : scheme? text.toList = some (scheme, behind)) :
    parse text = behindScheme scheme behind := by
  have hreverse : forall c, c ∈ text.toList.reverse -> surrounds c = false := by
    intro c hc
    exact h c (List.mem_reverse.mp hc)
  have hkept : text.toList.filter (!isIgnored ·) = text.toList := by
    apply List.filter_eq_self.mpr
    intro c hc
    have hblank := h c hc
    cases hignored : isIgnored c with
    | false => rfl
    | true =>
        simp only [isIgnored, Bool.or_eq_true, beq_iff_eq] at hignored
        rcases hignored with (rfl | rfl) | rfl
        all_goals cases hblank
  simp only [parse, dropWhile_surrounds h, dropWhile_surrounds hreverse, List.reverse_reverse,
    hkept, hscheme]

/-!
# The scheme
-/

theorem toList_toLower (text : String) : text.toLower.toList = text.toList.map Char.toLower :=
  String.toList_map

theorem isAlpha_of_toLower (h : c.toLower.isAlpha = true) : c.isAlpha = true := by
  have hcases : c.toLower = c ∨ c.toNat < 0x80 := by
    unfold Char.toLower
    split
    · rename_i hupper
      exact Or.inr (Nat.lt_of_le_of_lt (UInt32.le_iff_toNat_le.mp hupper.right) (by decide))
    · exact Or.inl rfl
  rcases hcases with hsame | hlt
  · rw [hsame] at h
    exact h
  · exact of_ascii (s := fun c => c.toLower.isAlpha) hlt h (by decide)

theorem scheme?_append (hne : scheme ≠ []) (halpha : forall c, c ∈ scheme -> c.isAlpha = true) :
    scheme? (scheme ++ ':' :: behind) = some (String.ofList (scheme.map Char.toLower), behind) := by
  have hchars : forall c, c ∈ scheme -> isSchemeChar c = true := by
    intro c hc
    simp [isSchemeChar, Char.isAlphanum, halpha c hc]
  have hbefore : (scheme ++ ':' :: behind).takeWhile isSchemeChar = scheme := by
    rw [List.takeWhile_append_of_pos hchars, List.takeWhile_cons_of_neg (by decide),
      List.append_nil]
  have hafter : (scheme ++ ':' :: behind).dropWhile isSchemeChar = ':' :: behind := by
    rw [List.dropWhile_append_of_pos hchars, List.dropWhile_cons_of_neg (by decide)]
  cases scheme with
  | nil => exact absurd rfl hne
  | cons first rest =>
      have hfirst := halpha first List.mem_cons_self
      rw [List.cons_append] at hbefore hafter ⊢
      rw [scheme?]
      simp only [hfirst, hbefore, hafter]
      rfl

/-!
# The authority

A host and a port have nothing in them that ends the authority, and no sign that sets a user
apart.
-/

theorem endsAuthority_of_isPlain (kind : SchemeKind) (h : isPlain c = true) :
    endsAuthority kind c = false := by
  simp [isPlain] at h
  simp [endsAuthority, isSlash, endsPath, h]

theorem splitUser_of_no_at (h : '@' ∉ cs) : splitUser cs = (none, cs) := by
  rw [splitUser, if_neg (by simpa using h)]

/-- What is written behind a host to tell the port. -/
structure IsPortText (usual : Nat) (cs : List Char) (p : Option Nat) : Prop where
  read : port (some usual) cs = .ok (p, [])
  plain : forall c, c ∈ cs -> isPlain c = true
  split : splitHost false cs = ([], cs)

theorem not_at_of_isPlain (h : forall c, c ∈ cs -> isPlain c = true) : '@' ∉ cs := by
  intro hat
  cases h '@' hat

theorem readAuthority_of_isWhole {p : Option Nat} (hwhole : IsWhole hostText)
    (hhost : specialHost hostText = .ok host) (hport : IsPortText usual cs p) :
    readAuthority (.special usual) (hostText ++ cs) behind =
      .ok ({ host := some host, port := p }, behind) := by
  have hat : '@' ∉ hostText ++ cs := by
    rw [List.mem_append, not_or]
    exact ⟨not_at_of_isPlain hwhole.plain, not_at_of_isPlain hport.plain⟩
  have hsplit := hwhole.split cs hport.split
  have hne := hwhole.ne_nil
  simp [readAuthority, splitUser_of_no_at hat, hsplit, hne, SchemeKind.isSpecial,
    SchemeKind.usualPort?, hhost, hport.read]
  rfl

theorem dropWhile_slashes (h : IsWhole hostText) :
    ('/' :: '/' :: (hostText ++ behind)).dropWhile (isSlash (.special usual)) =
      hostText ++ behind := by
  cases hostText with
  | nil => exact absurd rfl h.ne_nil
  | cons first rest =>
      have hfirst := endsAuthority_of_isPlain (.special usual) (h.plain first List.mem_cons_self)
      rw [endsAuthority, Bool.or_eq_false_iff] at hfirst
      rw [List.cons_append, List.dropWhile_cons_of_pos rfl, List.dropWhile_cons_of_pos rfl,
        List.dropWhile_cons_of_neg (by simp [hfirst.left])]

theorem behindSlashes_of_isWhole {p : Option Nat} {slash : Bool} {scheme : String}
    (hwhole : IsWhole hostText) (hhost : specialHost hostText = .ok host)
    (hport : IsPortText usual cs p) :
    behindSlashes (.special usual) scheme
        (hostText ++ cs ++ (if slash then ['/'] else [])) =
      .ok { scheme := scheme
            authority := some { host := some host, port := p }
            path := .steps [""] } := by
  have hplain : forall c, c ∈ hostText ++ cs -> (!endsAuthority (.special usual) c) = true := by
    intro c hc
    rw [endsAuthority_of_isPlain]
    · rfl
    · rcases List.mem_append.mp hc with hc | hc
      · exact hwhole.plain c hc
      · exact hport.plain c hc
  have hslash : (if slash then ['/'] else []).takeWhile (!endsAuthority (.special usual) ·) = [] ∧
      (if slash then ['/'] else []).dropWhile (!endsAuthority (.special usual) ·) =
        if slash then ['/'] else [] := by
    cases slash
    · exact ⟨rfl, rfl⟩
    · exact ⟨rfl, rfl⟩
  rw [behindSlashes, List.takeWhile_append_of_pos hplain, List.dropWhile_append_of_pos hplain,
    hslash.left, hslash.right, List.append_nil, readAuthority_of_isWhole hwhole hhost hport]
  cases slash
  · rfl
  · rfl

/-!
# The port

Zeros in front of a port do not count, and a port that is usual for the scheme is not kept.
-/

def decimal (zeros n : Nat) : List Char :=
  List.replicate zeros '0' ++ Nat.toDigits 10 n

theorem isDigit_of_mem_decimal {zeros n : Nat} (h : c ∈ decimal zeros n) : c.isDigit = true := by
  rcases List.mem_append.mp h with h | h
  · rw [(List.mem_replicate.mp h).right]
    decide
  · exact Nat.isDigit_of_mem_toDigits (by decide) (by decide) h

theorem foldl_hexValue? {start : Nat} (h : forall c, c ∈ cs -> c.isDigit = true) :
    cs.foldl (fun n c => 10 * n + (Text.hexValue? c).getD 0) start =
      Nat.ofDigitChars 10 cs start := by
  induction cs generalizing start with
  | nil => rfl
  | cons c rest ih =>
      have hc : Text.hexValue? c = some (c.toNat - 0x30) := if_pos (h c List.mem_cons_self)
      rw [List.foldl_cons, hc, ih fun d hd => h d (List.mem_cons_of_mem _ hd),
        Nat.ofDigitChars_cons]
      rfl

theorem valueIn_decimal (zeros n : Nat) : valueIn 10 (decimal zeros n) = n := by
  rw [valueIn, foldl_hexValue? fun c hc => isDigit_of_mem_decimal hc, decimal,
    Nat.ofDigitChars_append, Nat.ofDigitChars_replicate_zero, Nat.mul_zero,
    Nat.ofDigitChars_toDigits (by decide) (by decide)]

theorem filter_some_ne {n : Nat} :
    (some n).filter (· != usual) = if n = usual then none else some n := by
  by_cases heq : n = usual
  · simp [heq]
  · simp [heq]

theorem isPortText_nil : IsPortText usual [] none :=
  ⟨rfl, by simp, rfl⟩

theorem isPortText_decimal {zeros n : Nat} (h : n <= 65535) :
    IsPortText usual (':' :: decimal zeros n) (if n = usual then none else some n) := by
  have hdigits : forall c, c ∈ decimal zeros n -> c.isDigit = true :=
    fun c hc => isDigit_of_mem_decimal hc
  have hall : (decimal zeros n).takeWhile Char.isDigit = decimal zeros n := by
    rw [← List.append_nil (decimal zeros n), List.takeWhile_append_of_pos hdigits]
    rfl
  have hnone : (decimal zeros n).dropWhile Char.isDigit = [] := by
    rw [← List.append_nil (decimal zeros n), List.dropWhile_append_of_pos hdigits]
    rfl
  have hne : decimal zeros n ≠ [] := by
    simp [decimal, Nat.toDigits_ne_nil]
  constructor
  · have hfits : ¬65535 < n := Nat.not_lt_of_le h
    rw [port, hall, hnone, valueIn_decimal]
    simp [hfits, hne]
  · intro c hc
    rcases List.mem_cons.mp hc with rfl | hc
    · decide
    · have hdigit := hdigits c hc
      exact (isPlain_of_isSixthChar (by simp [isSixthChar, Text.hexValue?, hdigit])).left
  · rfl

/-!
# Whole addresses
-/

namespace Site

variable {s : Site} {scheme : String}

theorem isPortText (h : forall n, s.port = some n -> n <= 65535) :
    IsPortText usual s.portText.toList (s.port.filter (· != usual)) := by
  cases hport : s.port with
  | none =>
      rw [portText, hport]
      exact isPortText_nil
  | some n =>
      have htext : s.portText.toList = ':' :: decimal s.zeros n := by
        rw [portText, hport]
        simp [decimal]
      rw [htext, filter_some_ne]
      exact isPortText_decimal (h n hport)

theorem isAlpha_of_special (h : SchemeKind.ofScheme scheme = .special usual) :
    scheme.toList ≠ [] ∧ forall c, c ∈ scheme.toList -> c.isAlpha = true := by
  unfold SchemeKind.ofScheme at h
  split at h
  all_goals cases h
  all_goals simp

theorem isAlpha_of_mem_scheme (h : SchemeKind.ofScheme s.scheme.toLower = .special usual) :
    s.scheme.toList ≠ [] ∧ forall c, c ∈ s.scheme.toList -> c.isAlpha = true := by
  rcases isAlpha_of_special h with ⟨hne, halpha⟩
  rw [toList_toLower] at hne halpha
  constructor
  · exact fun hnil => hne (congrArg (List.map Char.toLower) hnil)
  · intro c hc
    exact isAlpha_of_toLower (halpha _ (List.mem_map_of_mem hc))

theorem toList_text : s.text.toList = s.scheme.toList ++ ':' :: '/' :: '/' ::
    (s.host.toList ++ s.portText.toList ++ (if s.slash then ['/'] else [])) := by
  rw [text]
  cases s.slash
  · simp
  · simp

theorem surrounds_of_mem_text {p : Option Nat}
    (halpha : forall c, c ∈ s.scheme.toList -> c.isAlpha = true) (hwhole : IsWhole s.host.toList)
    (hport : IsPortText usual s.portText.toList p) (hc : c ∈ s.text.toList) :
    surrounds c = false := by
  simp only [toList_text, List.mem_append, List.mem_cons] at hc
  rcases hc with hc | rfl | rfl | rfl | (hc | hc) | hc
  · exact surrounds_of_isAlpha (halpha c hc)
  · decide
  · decide
  · decide
  · exact surrounds_of_isPlain (hwhole.plain c hc)
  · exact surrounds_of_isPlain (hport.plain c hc)
  · split at hc
    · rw [List.mem_singleton.mp hc]
      decide
    · cases hc

/-- What is written to name a server is read as its scheme, its host and its port. -/
theorem parse_text (hspecial : SchemeKind.ofScheme s.scheme.toLower = .special usual)
    (hhost : specialHost s.host.toList = .ok host)
    (hport : forall n, s.port = some n -> n <= 65535) :
    parse s.text = .ok {
      scheme := s.scheme.toLower
      authority := some { host := some host, port := s.port.filter (· != usual) }
      path := .steps [""] } := by
  have hwhole := isWhole_of_specialHost hhost
  have hporttext : IsPortText usual s.portText.toList (s.port.filter (· != usual)) :=
    isPortText hport
  rcases isAlpha_of_mem_scheme hspecial with ⟨hne, halpha⟩
  have hscheme : scheme? s.text.toList = some (s.scheme.toLower, '/' :: '/' ::
      (s.host.toList ++ s.portText.toList ++ (if s.slash then ['/'] else []))) := by
    rw [toList_text, scheme?_append hne halpha, ← toList_toLower, String.ofList_toList]
  rw [parse_of_no_blanks (fun c hc => surrounds_of_mem_text halpha hwhole hporttext hc) hscheme]
  simp only [behindScheme, hspecial, List.append_assoc, dropWhile_slashes hwhole]
  rw [← List.append_assoc]
  exact behindSlashes_of_isWhole hwhole hhost hporttext

end Site
end Url
end Colloquy
