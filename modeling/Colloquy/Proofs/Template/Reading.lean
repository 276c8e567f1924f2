import Mathlib.Data.List.Chain
import Colloquy.Template

/-!
# Readings of templates

A reading of a text is a list of segments that gives the text back, in which no literal
is empty, holds a placeholder or stands next to another literal.  A text has at most
one reading, which is what parsing answers, and it has one if its placeholders name known
functions only.
-/

namespace Colloquy
namespace Template

def IsName (name : List Char) : Prop :=
  exists first rest,
    name = first :: rest ∧ isNameStart first = true ∧ forall c, c ∈ rest -> isNameChar c = true

def Calls (cs name : List Char) : Prop :=
  IsName name ∧ Segment.placeholder name <:+: cs

def KnownCalls (text : String) : Prop :=
  forall name, Calls text.toList name -> exists f : Function, f.name.toList = name

/-- A literal that is not empty and holds no placeholder, or a call. -/
def IsPlain : Segment -> Prop
  | .text t => t ≠ "" ∧ forall name, ¬Calls t.toList name
  | .call _ => True

def Apart (a b : Segment) : Prop :=
  a.isCall = true ∨ b.isCall = true

structure Reads (text : String) (t : Template) : Prop where
  source : t.source = text
  plain : forall s, s ∈ t.segments -> IsPlain s
  apart : t.segments.IsChain Apart

/-!
# Placeholders

A placeholder has no opening brace but its first character, so two of them cannot overlap.
-/

theorem nameChar_ne_brace {c : Char} (h : isNameChar c = true) : c ≠ '\x7b' := by
  intro hc
  rw [hc] at h
  exact absurd h (by decide)

theorem nameChar_of_nameStart {c : Char} (h : isNameStart c = true) : isNameChar c = true := by
  simp only [isNameStart, isNameChar, Char.isAlphanum, Bool.or_eq_true] at h ⊢
  rcases h with h | h
  · exact Or.inl (Or.inl h)
  · exact Or.inr h

theorem IsName.nameChar {name : List Char} (h : IsName name) :
    forall c, c ∈ name -> isNameChar c = true := by
  rcases h with ⟨first, rest, rfl, hfirst, hrest⟩
  intro c hc
  rcases List.mem_cons.mp hc with rfl | hc
  · exact nameChar_of_nameStart hfirst
  · exact hrest c hc

theorem afterCall?_eq_some {cs after : List Char} (h : afterCall? cs = some after) :
    cs = '(' :: ')' :: '\x7d' :: after := by
  unfold afterCall? at h
  split at h
  · cases h
    rfl
  · cases h

theorem placeholder?_eq_some_iff {cs name after : List Char} :
    placeholder? cs = some (name, after) <->
      IsName name ∧ cs = Segment.placeholder name ++ after := by
  constructor
  · intro h
    unfold placeholder? at h
    split at h
    · rename_i first rest
      split at h
      · rename_i hfirst
        split at h
        · rename_i tail htail
          cases h
          refine ⟨⟨first, _, rfl, hfirst, ?_⟩, ?_⟩
          · intro c hc
            exact (List.all_eq_true.mp List.all_takeWhile) c hc
          · have hrest := List.takeWhile_append_dropWhile (p := isNameChar) (l := rest)
            rw [afterCall?_eq_some htail] at hrest
            simpa [Segment.placeholder] using hrest.symm
        · cases h
      · cases h
    · cases h
  · intro h
    rcases h with ⟨⟨first, rest, rfl, hfirst, hrest⟩, rfl⟩
    have htake : (rest ++ ['(', ')', '\x7d'] ++ after).takeWhile isNameChar = rest := by
      rw [List.append_assoc, List.takeWhile_append_of_pos hrest]
      exact List.append_nil rest
    have hdrop : (rest ++ ['(', ')', '\x7d'] ++ after).dropWhile isNameChar =
        '(' :: ')' :: '\x7d' :: after := by
      rw [List.append_assoc, List.dropWhile_append_of_pos hrest]
      rfl
    show placeholder? ('\x7b' :: first :: (rest ++ ['(', ')', '\x7d'] ++ after)) = _
    simp only [placeholder?, hfirst, if_true, hdrop, htake, afterCall?]

theorem calls_placeholder_append {name : List Char} (hname : IsName name) (after : List Char) :
    Calls (Segment.placeholder name ++ after) name :=
  ⟨hname, List.infix_append' [] _ _⟩

theorem Calls.of_isInfix {cs ds name : List Char} (h : Calls cs name) (hin : cs <:+: ds) :
    Calls ds name :=
  ⟨h.left, h.right.trans hin⟩

theorem not_calls_nil (name : List Char) : ¬Calls [] name := by
  intro h
  have := List.infix_nil.mp h.right
  cases this

theorem brace_not_mem_placeholder_tail {name : List Char} (hname : IsName name) :
    '\x7b' ∉ name ++ ['(', ')', '\x7d'] := by
  intro h
  rcases List.mem_append.mp h with h | h
  · exact nameChar_ne_brace (hname.nameChar _ h) rfl
  · exact absurd h (by decide)

/-- A list in front of which a brace stands begins with it, or goes on where the list
without braces ends. -/
theorem append_eq_append_brace {cs after front back : List Char} (hcs : '\x7b' ∉ cs)
    (h : cs ++ after = front ++ '\x7b' :: back) :
    exists gap, front = cs ++ gap ∧ after = gap ++ '\x7b' :: back := by
  rcases List.append_eq_append_iff.mp h with ⟨gap, hfront, hafter⟩ | ⟨gap, hfront, hback⟩
  · exact ⟨gap, hfront, hafter⟩
  · cases gap with
    | nil =>
        refine ⟨[], ?_, ?_⟩
        · rw [hfront, List.append_nil, List.append_nil]
        · rw [List.nil_append, hback, List.nil_append]
    | cons c gap =>
        rw [List.cons_append, List.cons.injEq] at hback
        rw [hfront, ← hback.left] at hcs
        exact absurd (List.mem_append_right _ List.mem_cons_self) hcs

theorem calls_placeholder_append_cases {name other after : List Char} (hname : IsName name)
    (h : Calls (Segment.placeholder name ++ after) other) :
    other = name ∨ Calls after other := by
  rcases h with ⟨hother, front, back, heq⟩
  cases front with
  | nil =>
      have hfound := placeholder?_eq_some_iff.mpr ⟨hother, heq.symm⟩
      rw [placeholder?_eq_some_iff.mpr ⟨hname, rfl⟩] at hfound
      cases hfound
      exact Or.inl rfl
  | cons c front =>
      have htail : name ++ ['(', ')', '\x7d'] ++ after =
          front ++ '\x7b' :: (other ++ ['(', ')', '\x7d'] ++ back) := by
        have := heq.symm
        simp only [Segment.placeholder, List.cons_append, List.cons.injEq, List.append_assoc]
          at this ⊢
        exact this.right
      rcases append_eq_append_brace (brace_not_mem_placeholder_tail hname) htail with
        ⟨gap, _, hafter⟩
      refine Or.inr ⟨hother, gap, back, ?_⟩
      rw [hafter]
      simp [Segment.placeholder]

theorem calls_cons_cases {c : Char} {cs name : List Char} (h : Calls (c :: cs) name) :
    (exists after, placeholder? (c :: cs) = some (name, after)) ∨ Calls cs name := by
  rcases h with ⟨hname, front, back, heq⟩
  cases front with
  | nil => exact Or.inl ⟨back, placeholder?_eq_some_iff.mpr ⟨hname, heq.symm⟩⟩
  | cons d front =>
      rw [List.cons_append, List.cons_append, List.cons.injEq] at heq
      exact Or.inr ⟨hname, front, back, heq.right⟩

/-!
# Parsing

The parser carries the text that it has passed since the last call.  No placeholder begins in
this text, not even one that ends in what follows.
-/

theorem ofName?_eq_some_iff {name : List Char} {f : Function} :
    Function.ofName? (String.ofList name) = some f <-> f.name.toList = name := by
  constructor
  · intro h
    have hname : f.name = String.ofList name := by
      generalize String.ofList name = s at h
      unfold Function.ofName? at h
      split at h
      · cases h
        rfl
      · cases h
        rfl
      · cases h
    rw [hname, String.toList_ofList]
  · intro h
    rw [← h, String.ofList_toList]
    cases f <;> rfl

theorem isName_function (f : Function) : IsName f.name.toList := by
  cases f with
  | python => exact ⟨'p', ['y', 't', 'h', 'o', 'n'], rfl, rfl, List.all_eq_true.mp rfl⟩
  | rtfm => exact ⟨'r', ['t', 'f', 'm'], rfl, rfl, List.all_eq_true.mp rfl⟩

theorem segmentsFrom_skip {c : Char} {cs : List Char} (text : List Char)
    (h : placeholder? (c :: cs) = none) :
    segmentsFrom text (c :: cs) = segmentsFrom (c :: text) cs := by
  rw [segmentsFrom]
  split
  · rename_i heq
    rw [h] at heq
    cases heq
  · rfl

theorem segmentsFrom_call {cs after : List Char} {f : Function} (text : List Char)
    (h : placeholder? cs = some (f.name.toList, after)) :
    segmentsFrom text cs =
      (segmentsFrom [] after).map fun more =>
        literal text.reverse ++ Segment.call f :: more := by
  cases cs with
  | nil => cases h
  | cons c rest =>
      rw [segmentsFrom]
      split
      · rename_i heq
        rw [h] at heq
        cases heq
        rw [ofName?_eq_some_iff.mpr rfl]
      · rename_i heq
        rw [h] at heq
        cases heq

theorem exists_segmentsFrom_iff (text cs : List Char) :
    (exists segments, segmentsFrom text cs = .ok segments) <->
      forall name, Calls cs name -> exists f : Function, f.name.toList = name := by
  fun_induction segmentsFrom text cs with
  | case1 text =>
      constructor
      · intro _ name hname
        exact absurd hname (not_calls_nil name)
      · intro _
        exact ⟨_, rfl⟩
  | case2 text c rest name after hfound hunknown =>
      rcases placeholder?_eq_some_iff.mp hfound with ⟨hname, heq⟩
      constructor
      · intro h
        rcases h with ⟨segments, h⟩
        cases h
      · intro h
        rw [heq] at h
        rcases h name (calls_placeholder_append hname after) with ⟨f, hf⟩
        rw [ofName?_eq_some_iff.mpr hf] at hunknown
        cases hunknown
  | case3 text c rest name after hfound f hf ih =>
      rcases placeholder?_eq_some_iff.mp hfound with ⟨hname, heq⟩
      rw [heq]
      constructor
      · intro h other hother
        rcases calls_placeholder_append_cases hname hother with rfl | hother
        · exact ⟨f, ofName?_eq_some_iff.mp hf⟩
        · apply ih.mp _ other hother
          cases hafter : segmentsFrom [] after with
          | ok segments => exact ⟨segments, rfl⟩
          | error e =>
              rcases h with ⟨segments, h⟩
              rw [hafter] at h
              cases h
      · intro h
        rcases ih.mpr fun other hother =>
          h other (hother.of_isInfix (List.suffix_append _ after).isInfix) with ⟨more, hmore⟩
        exact ⟨_, by rw [hmore]; rfl⟩
  | case4 text c rest hnone ih =>
      rw [ih]
      constructor
      · intro h name hname
        rcases calls_cons_cases hname with ⟨after, hfound⟩ | hname
        · rw [hnone] at hfound
          cases hfound
        · exact h name hname
      · intro h name hname
        exact h name (hname.of_isInfix (List.suffix_cons c rest).isInfix)

/-- No placeholder begins in the first text when the second one follows it. -/
def Passed (front cs : List Char) : Prop :=
  forall v, v ≠ [] -> v <:+ front -> placeholder? (v ++ cs) = none

theorem passed_nil (cs : List Char) : Passed [] cs := by
  intro v hv hsuffix
  exact absurd (List.suffix_nil.mp hsuffix) hv

theorem Passed.snoc {front cs : List Char} {c : Char} (h : Passed front (c :: cs))
    (hc : placeholder? (c :: cs) = none) : Passed (front ++ [c]) cs := by
  intro v hv hsuffix
  rcases List.suffix_concat_iff.mp hsuffix with rfl | ⟨w, rfl, hw⟩
  · exact absurd rfl hv
  · rw [List.append_assoc]
    cases w with
    | nil => exact hc
    | cons d w => exact h _ (List.cons_ne_nil d w) hw

theorem Passed.not_calls {front cs : List Char} (h : Passed front cs) (name : List Char) :
    ¬Calls front name := by
  intro hcalls
  rcases hcalls with ⟨hname, before, back, heq⟩
  have hpassed := h (Segment.placeholder name ++ back) (by simp [Segment.placeholder])
    ⟨before, by rw [← heq, List.append_assoc]⟩
  rw [List.append_assoc, placeholder?_eq_some_iff.mpr ⟨hname, rfl⟩] at hpassed
  cases hpassed

theorem flatMap_source_literal (t : List Char) :
    (literal t).flatMap Segment.source = t := by
  cases t with
  | nil => rfl
  | cons c t => simp [literal, Segment.source]

theorem isPlain_of_mem_literal {t : List Char} {s : Segment}
    (ht : forall name, ¬Calls t name) (hs : s ∈ literal t) : IsPlain s := by
  cases t with
  | nil => cases hs
  | cons c t =>
      cases List.mem_singleton.mp hs
      refine ⟨?_, ?_⟩
      · intro h
        simpa using congrArg String.toList h
      · intro name
        rw [String.toList_ofList]
        exact ht name

theorem isChain_literal_append (t : List Char) (f : Function) {more : List Segment}
    (h : more.IsChain Apart) : (literal t ++ Segment.call f :: more).IsChain Apart := by
  have hcall : (Segment.call f :: more).IsChain Apart :=
    h.cons fun s _ => Or.inl rfl
  cases t with
  | nil => exact hcall
  | cons c t =>
      apply List.IsChain.cons hcall
      intro s hs
      cases Option.some.inj hs
      exact Or.inr rfl

theorem reads_of_segmentsFrom {text cs : List Char} {segments : List Segment}
    (h : segmentsFrom text cs = .ok segments) (hpassed : Passed text.reverse cs) :
    segments.flatMap Segment.source = text.reverse ++ cs ∧
      (forall s, s ∈ segments -> IsPlain s) ∧ segments.IsChain Apart := by
  fun_induction segmentsFrom text cs generalizing segments with
  | case1 text =>
      cases h
      refine ⟨?_, fun s hs => isPlain_of_mem_literal hpassed.not_calls hs, ?_⟩
      · rw [flatMap_source_literal, List.append_nil]
      · unfold literal
        split
        · exact List.isChain_nil
        · exact List.isChain_singleton _
  | case2 => cases h
  | case3 text c rest name after hfound f hf ih =>
      rcases placeholder?_eq_some_iff.mp hfound with ⟨_, heq⟩
      cases hafter : segmentsFrom [] after with
      | error e =>
          rw [hafter] at h
          cases h
      | ok more =>
          rw [hafter] at h
          cases h
          rcases ih hafter (passed_nil after) with ⟨hsource, hplain, hchain⟩
          refine ⟨?_, ?_, isChain_literal_append _ f hchain⟩
          · rw [List.flatMap_append, flatMap_source_literal, List.flatMap_cons, hsource, heq,
              Segment.source, ofName?_eq_some_iff.mp hf]
            rfl
          · intro s hs
            rcases List.mem_append.mp hs with hs | hs
            · exact isPlain_of_mem_literal hpassed.not_calls hs
            · rcases List.mem_cons.mp hs with rfl | hs
              · trivial
              · exact hplain s hs
  | case4 text c rest hnone ih =>
      rw [List.reverse_cons, List.append_assoc] at ih
      exact ih h (hpassed.snoc hnone)

/-!
# Uniqueness

The parser makes the segments of a reading again from their source, so there is only one
reading.
-/

/-- A literal without a placeholder makes none with what follows, unless that goes on inside
a placeholder. -/
theorem passed_of_not_calls {t cs : List Char} (ht : forall name, ¬Calls t name)
    (hcs : cs = [] ∨ exists rest, cs = '\x7b' :: rest) : Passed t cs := by
  intro v hv hsuffix
  cases hfound : placeholder? (v ++ cs) with
  | none => rfl
  | some found =>
      exfalso
      rcases found with ⟨name, after⟩
      rcases placeholder?_eq_some_iff.mp hfound with ⟨hname, heq⟩
      have hprefix : exists gap, v = Segment.placeholder name ++ gap := by
        rcases hcs with rfl | ⟨rest, rfl⟩
        · exact ⟨after, by rw [← heq, List.append_nil]⟩
        · cases v with
          | nil => exact absurd rfl hv
          | cons d v =>
              simp only [Segment.placeholder, List.cons_append, List.cons.injEq] at heq
              rcases append_eq_append_brace (brace_not_mem_placeholder_tail hname) heq.right.symm
                with ⟨gap, hgap, _⟩
              exact ⟨gap, by rw [heq.left, hgap]; rfl⟩
      rcases hprefix with ⟨gap, rfl⟩
      exact ht name ((calls_placeholder_append hname gap).of_isInfix hsuffix.isInfix)

theorem segmentsFrom_append {t cs : List Char} (text : List Char) (h : Passed t cs) :
    segmentsFrom text (t ++ cs) = segmentsFrom (t.reverse ++ text) cs := by
  induction t generalizing text with
  | nil => rfl
  | cons c t ih =>
      have hc : placeholder? (c :: (t ++ cs)) = none :=
        h (c :: t) (List.cons_ne_nil c t) (List.suffix_refl _)
      rw [List.cons_append, segmentsFrom_skip text hc, ih]
      · rw [List.reverse_cons, List.append_assoc]
        rfl
      · intro v hv hsuffix
        exact h v hv (hsuffix.trans (List.suffix_cons c t))

theorem segmentsFrom_source_call (text : List Char) (f : Function) (more : List Segment) :
    segmentsFrom text ((Segment.call f :: more).flatMap Segment.source) =
      (segmentsFrom [] (more.flatMap Segment.source)).map fun more =>
        literal text.reverse ++ Segment.call f :: more :=
  segmentsFrom_call text (placeholder?_eq_some_iff.mpr ⟨isName_function f, rfl⟩)

/-- The source of a reading is read as that reading. -/
theorem segmentsFrom_source {segments : List Segment}
    (hplain : forall s, s ∈ segments -> IsPlain s) (hchain : segments.IsChain Apart) :
    segmentsFrom [] (segments.flatMap Segment.source) = .ok segments := by
  induction segments with
  | nil => exact segmentsFrom.eq_1 []
  | cons s more ih =>
      have hmore := ih (fun s hs => hplain s (List.mem_cons_of_mem _ hs)) hchain.tail
      cases s with
      | call f =>
          rw [segmentsFrom_source_call, hmore]
          rfl
      | text t =>
          have ht := hplain (.text t) List.mem_cons_self
          have hliteral : literal t.toList.reverse.reverse = [Segment.text t] := by
            rw [List.reverse_reverse, literal, if_neg, String.ofList_toList]
            intro h
            exact ht.left (String.toList_eq_nil_iff.mp (List.isEmpty_iff.mp h))
          rw [List.flatMap_cons, Segment.source]
          cases more with
          | nil =>
              rw [List.flatMap_nil,
                segmentsFrom_append [] (passed_of_not_calls ht.right (Or.inl rfl)),
                List.append_nil, segmentsFrom.eq_1, hliteral]
          | cons s more =>
              cases s with
              | text u =>
                  rcases (List.isChain_cons_cons.mp hchain).left with h | h
                  · cases h
                  · cases h
              | call f =>
                  have hpassed : Passed t.toList
                      ((Segment.call f :: more).flatMap Segment.source) :=
                    passed_of_not_calls ht.right (Or.inr ⟨_, rfl⟩)
                  rw [segmentsFrom_append [] hpassed, List.append_nil, segmentsFrom_source_call,
                    hliteral]
                  have hrest := hmore
                  rw [segmentsFrom_source_call] at hrest
                  cases hread : segmentsFrom [] (more.flatMap Segment.source) with
                  | error e =>
                      rw [hread] at hrest
                      cases hrest
                  | ok read =>
                      rw [hread] at hrest
                      cases hrest
                      rfl

theorem parse_eq_ok_iff {text : String} {t : Template} :
    parse text = .ok t <-> Reads text t := by
  constructor
  · intro h
    unfold parse at h
    cases hsegments : segmentsFrom [] text.toList with
    | error e =>
        rw [hsegments] at h
        cases h
    | ok segments =>
        rw [hsegments] at h
        cases h
        rcases reads_of_segmentsFrom hsegments (passed_nil _) with ⟨hsource, hplain, hchain⟩
        refine ⟨?_, hplain, hchain⟩
        rw [source, hsource, List.reverse_nil, List.nil_append, String.ofList_toList]
  · intro h
    unfold parse
    rw [← h.source, source, String.toList_ofList, segmentsFrom_source h.plain h.apart]
    rfl

theorem exists_reads_iff {text : String} :
    (exists t, Reads text t) <-> KnownCalls text := by
  rw [KnownCalls, ← exists_segmentsFrom_iff []]
  constructor
  · intro h
    rcases h with ⟨t, h⟩
    refine ⟨t.segments, ?_⟩
    rw [← h.source, source, String.toList_ofList, segmentsFrom_source h.plain h.apart]
  · intro h
    rcases h with ⟨segments, h⟩
    exact ⟨⟨segments⟩, parse_eq_ok_iff.mp (by rw [parse, h]; rfl)⟩

end Template
end Colloquy
