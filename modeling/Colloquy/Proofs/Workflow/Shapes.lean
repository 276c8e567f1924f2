import Colloquy.Proofs.Workflow.Conditions
import Colloquy.Proofs.Workflow.Faults

/-!
# Items of accepted and of other shapes

An item of a list either has an accepted shape, and is loaded as what it says, or it is refused for
what is wrong with its shape.  An item that has a shape can fail only because of a name in it that
is not known, a pattern in it that does not compile or a list in it.
-/

namespace Colloquy
namespace Workflow

open Yaml (Value)

/-!
# Items of action lists

What an item says decides what it is loaded as, and an item that says nothing is refused for
its shape.
-/

def Saying.load (known : List String) : Saying -> Load.Check Action
  | finish => .ok .finish
  | goto target =>
      if known.contains target then .ok (.goto target) else .error (.unknownTarget target)
  | systemMessage text => (Load.template text).map .systemMessage
  | message b =>
      (Load.template b.text).map fun t =>
        .message t (b.role.getD .user) (b.importance.getD .medium) b.ttl

section

variable {known : List String} {index : Nat} {v body : Value} {key : String} {s : Saying}
  {a : Action} {reason : ActionError} {e : StateError}

theorem action_of_hasEntry (h : HasEntry v key body) :
    Load.action known index v =
      if key == "goto" then Load.goto known index body
      else if key == "system_message" then Load.systemMessage index body
      else if key == "message" then Load.message index body
      else .error (Load.malformed index (.unknown key)) := by
  have hentry := singleEntry?_eq_some_iff_hasEntry.mpr h
  unfold Load.action
  split
  · exact absurd h not_hasEntry_string
  · rw [hentry]

theorem goto_of_target {target : String} (h : body.untagged = .string target) :
    Load.goto known index body = (Saying.goto target).load known := by
  rw [Load.goto, string?_eq_some_iff_untagged.mpr h]
  rfl

theorem systemMessage_of_text {text : String} (h : body.untagged = .string text) :
    Load.systemMessage index body = (Saying.systemMessage text).load known := by
  rw [Load.systemMessage, string?_eq_some_iff_untagged.mpr h]
  rfl

theorem message_of_body {b : MessageBody} (h : Load.messageBody index body = .ok b) :
    Load.message index body = (Saying.message b).load known := by
  rw [Load.message, h, Saying.load]
  show (Load.template b.text >>= fun t =>
    .ok (Action.message t (b.role.getD .user) (b.importance.getD .medium) b.ttl)) = _
  cases Load.template b.text with
  | ok t => rfl
  | error e => rfl

theorem action_eq_load (h : Says v s) : Load.action known index v = s.load known := by
  cases h with
  | finish hv =>
      rw [hv]
      rfl
  | goto hentry htarget =>
      rw [action_of_hasEntry hentry]
      exact goto_of_target htarget
  | systemMessage hentry htext =>
      rw [action_of_hasEntry hentry]
      exact systemMessage_of_text htext
  | message hentry =>
      rw [action_of_hasEntry hentry]
      exact message_of_body rfl
  | longMessage hentry hb =>
      rw [action_of_hasEntry hentry]
      apply message_of_body
      rw [Load.messageBody, hb]

theorem action_of_holdsOf (h : reason.HoldsOf v) :
    Load.action known index v = .error (.malformedAction index reason) := by
  cases reason with
  | shape =>
      rcases h with ⟨hstring, hnone⟩
      unfold Load.action
      split
      · exact absurd rfl (hstring _)
      · rw [singleEntry?_eq_none_iff_hasEntry.mpr hnone]
        rfl
  | unknown name =>
      rcases h with ⟨rfl, hend⟩ | ⟨body, hentry, hgoto, hsystem, hmessage⟩
      · rw [Load.action, if_neg (fun heq => hend (beq_iff_eq.mp heq))]
        rfl
      · rw [action_of_hasEntry hentry, if_neg (fun heq => hgoto (beq_iff_eq.mp heq)),
          if_neg (fun heq => hsystem (beq_iff_eq.mp heq)),
          if_neg (fun heq => hmessage (beq_iff_eq.mp heq))]
        rfl
  | gotoTarget =>
      rcases h with ⟨body, hentry, hnone⟩
      rw [action_of_hasEntry hentry]
      show Load.goto known index body = _
      rw [Load.goto, string?_eq_none_iff_untagged.mpr hnone]
      rfl
  | systemText =>
      rcases h with ⟨body, hentry, hnone⟩
      rw [action_of_hasEntry hentry]
      show Load.systemMessage index body = _
      rw [Load.systemMessage, string?_eq_none_iff_untagged.mpr hnone]
      rfl
  | messageBody =>
      rcases h with ⟨body, hentry, hstring, hmapping⟩
      rw [action_of_hasEntry hentry]
      show Load.message index body = _
      rw [Load.message, Load.messageBody]
      · rfl
      · exact hstring
      · exact hmapping
  | body e =>
      rcases h with ⟨entries, hentry, he⟩
      rw [action_of_hasEntry hentry]
      show Load.message index (.mapping entries) = _
      rw [Load.message, Load.messageBody, he]
      rfl

/-- There are no other items. -/
theorem says_or_holdsOf (v : Value) :
    (exists s, Says v s) ∨ exists reason : ActionError, reason.HoldsOf v := by
  by_cases hstring : exists word, v = .string word
  · rcases hstring with ⟨word, rfl⟩
    by_cases hend : word = "end"
    · rw [hend]
      exact Or.inl ⟨_, Says.finish rfl⟩
    · exact Or.inr ⟨.unknown word, Or.inl ⟨rfl, hend⟩⟩
  · cases hentry : singleEntry? v with
    | none =>
        refine Or.inr ⟨.shape, fun word hv => hstring ⟨word, hv⟩, ?_⟩
        exact singleEntry?_eq_none_iff_hasEntry.mp hentry
    | some entry =>
        rcases entry with ⟨key, body⟩
        have hv := singleEntry?_eq_some_iff_hasEntry.mp hentry
        by_cases hgoto : key = "goto"
        · rw [hgoto] at hv
          cases htarget : body.string? with
          | none => exact Or.inr ⟨.gotoTarget, body, hv, string?_eq_none_iff_untagged.mp htarget⟩
          | some target =>
              exact Or.inl ⟨_, Says.goto hv (string?_eq_some_iff_untagged.mp htarget)⟩
        by_cases hsystem : key = "system_message"
        · rw [hsystem] at hv
          cases htext : body.string? with
          | none => exact Or.inr ⟨.systemText, body, hv, string?_eq_none_iff_untagged.mp htext⟩
          | some text =>
              exact Or.inl ⟨_, Says.systemMessage hv (string?_eq_some_iff_untagged.mp htext)⟩
        by_cases hmessage : key = "message"
        · rw [hmessage] at hv
          cases body with
          | string text => exact Or.inl ⟨_, Says.message hv⟩
          | mapping entries =>
              cases hb : MessageBody.ofEntries entries with
              | ok b => exact Or.inl ⟨_, Says.longMessage hv hb⟩
              | error e => exact Or.inr ⟨.body e, entries, hv, hb⟩
          | _ => exact Or.inr ⟨.messageBody, _, hv, nofun, nofun⟩
        · exact Or.inr ⟨.unknown key, Or.inr ⟨body, hv, hgoto, hsystem, hmessage⟩⟩

theorem template_eq_error {text : String} (h : Load.template text = .error e) :
    exists function, e = .unknownFunction function ∧
      Template.FirstUnknown text.toList function.toList := by
  unfold Load.template at h
  split at h
  · cases h
  · rename_i f hparse
    cases h
    exact ⟨f.name, rfl, Template.parse_eq_error_iff.mp hparse⟩

theorem load_eq_error (h : s.load known = .error e) :
    (exists target, s = .goto target ∧ target ∉ known ∧ e = .unknownTarget target) ∨
      exists text function, s.text? = some text ∧
        Template.FirstUnknown text.toList function.toList ∧ e = .unknownFunction function := by
  cases s with
  | finish => cases h
  | goto target =>
      rw [Saying.load] at h
      split at h
      · cases h
      · rename_i hknown
        cases h
        rw [List.contains_iff_mem] at hknown
        exact Or.inl ⟨target, rfl, hknown, rfl⟩
  | systemMessage text =>
      rcases template_eq_error (map_eq_error_iff.mp h) with ⟨function, he, hunknown⟩
      exact Or.inr ⟨text, function, rfl, hunknown, he⟩
  | message b =>
      rcases template_eq_error (map_eq_error_iff.mp h) with ⟨function, he, hunknown⟩
      exact Or.inr ⟨b.text, function, rfl, hunknown, he⟩

theorem load_of_unknownTarget {target : String} (h : target ∉ known) :
    (Saying.goto target).load known = .error (.unknownTarget target) := by
  rw [Saying.load, if_neg (fun hcontains => h (List.contains_iff_mem.mp hcontains))]

theorem load_of_unknownFunction {text function : String} (htext : s.text? = some text)
    (h : Template.FirstUnknown text.toList function.toList) :
    s.load known = .error (.unknownFunction function) := by
  have hparse : Template.parse text = .error ⟨function⟩ := Template.parse_eq_error_iff.mpr h
  cases s with
  | finish => cases htext
  | goto target => cases htext
  | systemMessage text =>
      cases htext
      rw [Saying.load, Load.template, hparse]
      rfl
  | message b =>
      cases htext
      rw [Saying.load, Load.template, hparse]
      rfl

theorem isTransfer_of_load (h : s.load known = .ok a) : a.isTransfer = s.isTransfer := by
  cases s with
  | finish =>
      cases h
      rfl
  | goto target =>
      rw [Saying.load] at h
      split at h
      · cases h
        rfl
      · cases h
  | systemMessage text =>
      rcases map_eq_ok_iff.mp h with ⟨t, _, rfl⟩
      rfl
  | message b =>
      rcases map_eq_ok_iff.mp h with ⟨t, _, rfl⟩
      rfl

theorem not_says_of_holdsOf (h : reason.HoldsOf v) : ¬Says v s := by
  intro hs
  have hload : s.load [] = .error (.malformedAction 0 reason) :=
    (action_eq_load hs).symm.trans (action_of_holdsOf h)
  rcases load_eq_error hload with ⟨_, _, _, he⟩ | ⟨_, _, _, _, he⟩
  · cases he
  · cases he

theorem action_eq_error (h : Load.action known index v = .error e) :
    (exists reason, (forall s, ¬Says v s) ∧ reason.HoldsOf v ∧
        e = .malformedAction index reason) ∨
      exists s, Says v s ∧ s.load known = .error e := by
  rcases says_or_holdsOf v with ⟨s, hs⟩ | ⟨reason, hreason⟩
  · rw [action_eq_load hs] at h
    exact Or.inr ⟨s, hs, h⟩
  · rw [action_of_holdsOf hreason] at h
    cases h
    exact Or.inl ⟨reason, fun s => not_says_of_holdsOf hreason, hreason, rfl⟩

theorem exists_saying (h : Load.action known index v = .ok a) : exists s, Says v s := by
  rcases says_or_holdsOf v with hsaying | ⟨reason, hreason⟩
  · exact hsaying
  · rw [action_of_holdsOf hreason] at h
    cases h

theorem handsOn_iff (h : Load.action known index v = .ok a) :
    HandsOn v <-> a.isTransfer = true := by
  constructor
  · rintro ⟨s, hs, htransfer⟩
    rw [action_eq_load hs] at h
    rw [isTransfer_of_load h, htransfer]
  · intro htransfer
    rcases exists_saying h with ⟨s, hs⟩
    rw [action_eq_load hs] at h
    rw [isTransfer_of_load h] at htransfer
    exact ⟨s, hs, htransfer⟩

end

/-!
# Items of condition lists
-/

section

variable {known : List String} {index : Nat} {v body : Value} {key : String} {rest : List Value}
  {e : StateError}

theorem conditionsFrom_of_hasEntry (h : HasEntry v key body) :
    Load.conditionsFrom known index (v :: rest) =
      Load.conditionsFrom known index (single key body :: rest) := by
  rw [Load.conditionsFrom, singleEntry?_eq_some_iff_hasEntry.mpr h]
  rfl

theorem clause_of_ofValue {b : IfBody} (h : IfBody.ofValue body = .ok b) :
    Load.clause known index body =
      Load.predicate index b >>= fun p =>
        Load.actions known b.action >>= fun as => .ok ⟨p, as⟩ := by
  rw [Load.clause, h]
  rfl

theorem conditionsFrom_of_isClause {b : IfBody} (h : IsClause v b) :
    Load.conditionsFrom known index (v :: rest) =
      Load.predicate index b >>= fun p =>
        Load.actions known b.action >>= fun as =>
          Load.conditionsFrom known (index + 1) rest >>= fun more =>
            .ok { more with clauses := ⟨p, as⟩ :: more.clauses } := by
  rcases h with ⟨body, hentry, hb⟩
  rw [conditionsFrom_of_hasEntry hentry, conditionsFrom_single_eq]
  show (Load.clause known index body >>= _) = _
  rw [clause_of_ofValue hb]
  cases Load.predicate index b with
  | error e => rfl
  | ok p =>
      cases Load.actions known b.action with
      | error e => rfl
      | ok as => rfl

theorem conditionsFrom_of_isDefault {b : DefaultBody} (h : IsDefault v b) :
    Load.conditionsFrom known index (v :: rest) =
      Load.actions known b.action >>= fun as =>
        if rest.isEmpty then .ok ⟨[], as⟩ else .error .defaultNotLast := by
  rcases h with ⟨body, hentry, hb⟩
  rw [conditionsFrom_of_hasEntry hentry, conditionsFrom_single_eq]
  show (Load.fallback known index body >>= _) = _
  rw [Load.fallback, hb]

theorem predicate_eq_error {b : IfBody} (h : Load.predicate index b = .error e) :
    (b.contains.isSome = b.pattern.isSome ∧ e = .malformedCondition index .predicate) ∨
      exists pattern reason, b.contains = none ∧ b.pattern = some pattern ∧
        Pattern.ofText pattern = .error reason ∧ e = .invalidPattern pattern reason := by
  unfold Load.predicate at h
  split at h
  · cases h
  · rename_i source hcontains hpattern
    split at h
    · cases h
    · rename_i reason hreason
      cases h
      exact Or.inr ⟨source, reason, hcontains, hpattern, hreason, rfl⟩
  · rename_i hnoNeedle hnoPattern
    cases h
    refine Or.inl ⟨?_, rfl⟩
    cases hcontains : b.contains with
    | none =>
        cases hpattern : b.pattern with
        | none => rfl
        | some source => exact absurd hpattern (hnoPattern source hcontains)
    | some needle =>
        cases hpattern : b.pattern with
        | none => exact absurd hpattern (hnoNeedle needle hcontains)
        | some source => rfl

theorem IsClause.not_hasEntry_default {b : IfBody} (h : IsClause v b) :
    ¬HasEntry v "default" body := by
  rcases h with ⟨_, hentry, _⟩
  intro hdefault
  exact absurd (hentry.unique hdefault).left (by decide)

theorem IsClause.not_isDefault {b : IfBody} {b' : DefaultBody} (h : IsClause v b) :
    ¬IsDefault v b' := by
  rintro ⟨body, hentry, _⟩
  exact h.not_hasEntry_default hentry

theorem HasTest.isSome_ne {b : IfBody} (h : HasTest b) :
    b.contains.isSome ≠ b.pattern.isSome := by
  cases h with
  | contains hneedle hnone =>
      rw [hneedle, hnone]
      simp
  | satisfies hnone hsource _ =>
      rw [hnone, hsource]
      simp

theorem HasTest.compiles {b : IfBody} {pattern : String} {reason : Pattern.Error} (h : HasTest b)
    (hpattern : b.pattern = some pattern) : Pattern.ofText pattern ≠ .error reason := by
  cases h with
  | contains _ hnone =>
      rw [hnone] at hpattern
      cases hpattern
  | satisfies _ hsource hp =>
      rw [hsource] at hpattern
      cases hpattern
      rw [hp]
      nofun

theorem not_isCondition_of_holdsOf {reason : ConditionError} (h : reason.HoldsOf v) :
    ¬IsCondition v := by
  intro hcondition
  cases hcondition with
  | @clause b hclause htest =>
      have hcopy := hclause
      rcases hcopy with ⟨body, hentry, hb⟩
      cases reason with
      | shape => exact h _ _ hentry
      | unknown name =>
          rcases h with ⟨body', hentry', hif, _⟩
          exact hif (hentry'.unique hentry).left
      | predicate =>
          rcases h with ⟨b', hclause', heq⟩
          rw [hclause'.unique hclause] at heq
          exact htest heq
      | body e =>
          rcases h with ⟨body', ⟨hentry', he⟩ | ⟨hentry', _⟩⟩
          · rw [(hentry'.unique hentry).right, hb] at he
            cases he
          · exact hclause.not_hasEntry_default hentry'
  | @fallback b hdefault =>
      rcases hdefault with ⟨body, hentry, hb⟩
      cases reason with
      | shape => exact h _ _ hentry
      | unknown name =>
          rcases h with ⟨body', hentry', _, hdefault⟩
          exact hdefault (hentry'.unique hentry).left
      | predicate =>
          rcases h with ⟨b', hclause', _⟩
          exact hclause'.not_hasEntry_default hentry
      | body e =>
          rcases h with ⟨body', ⟨hentry', _⟩ | ⟨hentry', he⟩⟩
          · exact absurd (hentry'.unique hentry).left (by decide)
          · rw [(hentry'.unique hentry).right, hb] at he
            cases he

theorem condition_cases (v : Value) :
    (exists b, IsClause v b) ∨ (exists b, IsDefault v b) ∨
      exists reason : ConditionError, reason.HoldsOf v ∧ forall known index rest,
        Load.conditionsFrom known index (v :: rest) =
          .error (.malformedCondition index reason) := by
  cases hentry : singleEntry? v with
  | none =>
      refine Or.inr (Or.inr ⟨.shape, singleEntry?_eq_none_iff_hasEntry.mp hentry, ?_⟩)
      intro known index rest
      rw [Load.conditionsFrom, hentry]
  | some entry =>
      rcases entry with ⟨key, body⟩
      have hv := singleEntry?_eq_some_iff_hasEntry.mp hentry
      by_cases hif : key = "if"
      · rw [hif] at hv
        cases hb : IfBody.ofValue body with
        | ok b => exact Or.inl ⟨b, body, hv, hb⟩
        | error e =>
            refine Or.inr (Or.inr ⟨.body e, ⟨body, Or.inl ⟨hv, hb⟩⟩, fun known index rest => ?_⟩)
            rw [conditionsFrom_of_hasEntry hv, conditionsFrom_single_eq]
            show (Load.clause known index body >>= _) = _
            rw [Load.clause, hb]
            rfl
      by_cases hdefault : key = "default"
      · rw [hdefault] at hv
        cases hb : DefaultBody.ofValue body with
        | ok b => exact Or.inr (Or.inl ⟨b, body, hv, hb⟩)
        | error e =>
            refine Or.inr (Or.inr ⟨.body e, ⟨body, Or.inr ⟨hv, hb⟩⟩, fun known index rest => ?_⟩)
            rw [conditionsFrom_of_hasEntry hv, conditionsFrom_single_eq]
            show (Load.fallback known index body >>= _) = _
            rw [Load.fallback, hb]
            rfl
      · refine Or.inr (Or.inr ⟨.unknown key, ⟨body, hv, hif, hdefault⟩, fun known index rest => ?_⟩)
        rw [conditionsFrom_of_hasEntry hv, conditionsFrom_single_eq,
          if_neg (fun heq => hif (beq_iff_eq.mp heq)),
          if_neg (fun heq => hdefault (beq_iff_eq.mp heq))]

end

end Workflow
end Colloquy
