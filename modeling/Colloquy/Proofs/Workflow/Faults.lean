import Colloquy.Proofs.Template.Refusal
import Colloquy.Proofs.Workflow.Grammar

/-!
# Faults of workflow documents

What each reason for a rejection says about a document, told without loading it.  Unlike in the
grammar, tags may stand around the values of a document: they do not count around a mapping with
one entry, its key, a target and a text, but they do around `end` and around a message.
-/

namespace Colloquy
namespace Workflow

open Yaml (Value)

/-!
# Items of action lists
-/

def HasEntry (v : Value) (key : String) (body : Value) : Prop :=
  exists k, v.untagged = .mapping [(k, body)] ∧ k.untagged = .string key

/-- What an item of an action list may say, whether or not it can be done. -/
inductive Saying where
  | finish
  | goto (target : String)
  | systemMessage (text : String)
  | message (body : MessageBody)

namespace Saying

def isTransfer : Saying -> Bool
  | finish => true
  | goto _ => true
  | systemMessage _ => false
  | message _ => false

def text? : Saying -> Option String
  | finish => none
  | goto _ => none
  | systemMessage text => some text
  | message b => some b.text

end Saying

inductive Says (v : Value) : Saying -> Prop where
  | finish : v = .string "end" -> Says v .finish
  | goto {body : Value} {target : String} : HasEntry v "goto" body ->
      body.untagged = .string target -> Says v (.goto target)
  | systemMessage {body : Value} {text : String} : HasEntry v "system_message" body ->
      body.untagged = .string text -> Says v (.systemMessage text)
  | message {text : String} : HasEntry v "message" (.string text) ->
      Says v (.message { text := text })
  | longMessage {entries : List (Value × Value)} {b : MessageBody} :
      HasEntry v "message" (.mapping entries) -> MessageBody.ofEntries entries = .ok b ->
        Says v (.message b)

def HandsOn (v : Value) : Prop :=
  exists s, Says v s ∧ s.isTransfer = true

structure FirstTransfer (items : List Value) (place : Nat) : Prop where
  stands : exists v, items[place]? = some v ∧ HandsOn v
  first : forall i v, i < place -> items[i]? = some v -> ¬HandsOn v

def ActionError.HoldsOf (v : Value) : ActionError -> Prop
  | shape => (forall word, v ≠ .string word) ∧ forall key body, ¬HasEntry v key body
  | unknown name => (v = .string name ∧ name ≠ "end") ∨
      exists body, HasEntry v name body ∧ name ≠ "goto" ∧ name ≠ "system_message" ∧
        name ≠ "message"
  | gotoTarget => exists body, HasEntry v "goto" body ∧
      forall target, body.untagged ≠ .string target
  | systemText => exists body, HasEntry v "system_message" body ∧
      forall text, body.untagged ≠ .string text
  | messageBody => exists body, HasEntry v "message" body ∧
      (forall text, body ≠ .string text) ∧ forall entries, body ≠ .mapping entries
  | body e => exists entries, HasEntry v "message" (.mapping entries) ∧
      MessageBody.ofEntries entries = .error e

/-!
# Items of condition lists
-/

def ReadsAs (key : String) (read : Value -> Except BodyError β) (v : Value) (b : β) : Prop :=
  exists body, HasEntry v key body ∧ read body = .ok b

def IsClause : Value -> IfBody -> Prop :=
  ReadsAs "if" IfBody.ofValue

def IsDefault : Value -> DefaultBody -> Prop :=
  ReadsAs "default" DefaultBody.ofValue

/-- The accepted shapes of an item: a clause has exactly one test. -/
inductive IsCondition (v : Value) : Prop where
  | clause {b : IfBody} : IsClause v b -> b.contains.isSome ≠ b.pattern.isSome -> IsCondition v
  | fallback {b : DefaultBody} : IsDefault v b -> IsCondition v

def ConditionError.HoldsOf (v : Value) : ConditionError -> Prop
  | shape => forall key body, ¬HasEntry v key body
  | unknown name => exists body, HasEntry v name body ∧ name ≠ "if" ∧ name ≠ "default"
  | predicate => exists b, IsClause v b ∧ b.contains.isSome = b.pattern.isSome
  | body e => exists body,
      (HasEntry v "if" body ∧ IfBody.ofValue body = .error e) ∨
        (HasEntry v "default" body ∧ DefaultBody.ofValue body = .error e)

/-!
# States
-/

inductive StateDocument.HasList (d : StateDocument) : List Value -> Prop where
  | entry {items : List Value} : d.action = some items -> HasList d items
  | clause {conditions : List Value} {v : Value} {b : IfBody} :
      d.conditions = some conditions -> v ∈ conditions -> IsClause v b -> HasList d b.action
  | fallback {conditions : List Value} {v : Value} {b : DefaultBody} :
      d.conditions = some conditions -> v ∈ conditions -> IsDefault v b -> HasList d b.action

/-- What is wrong with a state of an agent with the `known` states.  The items before a malformed
one have accepted shapes. -/
def StateError.HoldsOf (known : List String) (d : StateDocument) : StateError -> Prop
  | missingBody => d.action = none ∧ d.conditions = none
  | malformedAction index reason => exists items v, d.HasList items ∧ items[index]? = some v ∧
      (forall s, ¬Says v s) ∧ reason.HoldsOf v ∧
        forall w, w ∈ items.take index -> exists s, Says w s
  | malformedCondition index reason => exists items v, d.conditions = some items ∧
      items[index]? = some v ∧ ¬IsCondition v ∧ reason.HoldsOf v ∧
        forall w, w ∈ items.take index -> IsCondition w
  | defaultNotLast => exists items place v body, d.conditions = some items ∧
      items[place]? = some v ∧ HasEntry v "default" body ∧ place + 1 < items.length
  | missingDefault => exists items, d.conditions = some items ∧
      forall v, v ∈ items -> forall body, ¬HasEntry v "default" body
  | actionAfterTransfer index => exists items place, d.HasList items ∧
      FirstTransfer items place ∧ index = place + 1 ∧ index < items.length
  | fallsThrough => d.conditions = none ∧ exists items, d.action = some items ∧
      forall v, items.getLast? = some v -> ¬HandsOn v
  | unknownTarget target => target ∉ known ∧ exists items v, d.HasList items ∧ v ∈ items ∧
      Says v (.goto target)
  | unknownFunction function => exists items v s text, d.HasList items ∧ v ∈ items ∧
      Says v s ∧ s.text? = some text ∧ Template.FirstUnknown text.toList function.toList
  | invalidPattern pattern reason => exists items v b, d.conditions = some items ∧ v ∈ items ∧
      IsClause v b ∧ b.contains = none ∧ b.pattern = some pattern ∧
        Pattern.ofText pattern = .error reason

def StateDocument.Passes (known : List String) (d : StateDocument) : Prop :=
  forall e : StateError, ¬e.HoldsOf known d

/-!
# Documents
-/

structure AgentDocument.Passes (d : AgentDocument) : Prop where
  inhabited : d.states ≠ []
  distinct : (d.states.map StateDocument.name).Nodup
  states : forall s, s ∈ d.states -> s.Passes (d.states.map StateDocument.name)

structure Document.Passes (d : Document) : Prop where
  inhabited : d.agents ≠ []
  distinct : (d.agents.map AgentDocument.name).Nodup
  agents : forall a, a ∈ d.agents -> a.Passes

/-- An agent of the document and those before it, which have names of their own and pass. -/
structure Document.Reaches (d : Document) (before : List AgentDocument) (a : AgentDocument) :
    Prop where
  declared : before ++ [a] <+: d.agents
  distinct : (before.map AgentDocument.name).Nodup
  passed : forall b, b ∈ before -> b.Passes

/-- What is wrong with a document, of which all that comes before the named place passes.  The
names of the states of an agent are compared before any of the states is looked at. -/
def LoadError.HoldsOf (d : Document) : LoadError -> Prop
  | unreadable _ _ => False
  | yaml _ => False
  | noAgents => d.agents = []
  | duplicateAgent name => 2 <= (d.agents.map AgentDocument.name).count name ∧
      exists before a, d.Reaches before a ∧ a.name = name ∧
        name ∈ before.map AgentDocument.name
  | emptyAgent name => exists before a, d.Reaches before a ∧ a.name = name ∧ a.states = []
  | duplicateState agent state => exists before a, d.Reaches before a ∧ a.name = agent ∧
      2 <= (a.states.map StateDocument.name).count state
  | inState agent state e => exists before a earlier s, d.Reaches before a ∧ a.name = agent ∧
      earlier ++ [s] <+: a.states ∧ s.name = state ∧
        (forall s', s' ∈ earlier -> s'.Passes (a.states.map StateDocument.name)) ∧
          e.HoldsOf (a.states.map StateDocument.name) s

/-!
# Shapes

An item has one shape at most.
-/

section

variable {v body body' : Value} {key key' : String} {s s' : Saying}

theorem string?_eq_some_iff_untagged {text : String} :
    v.string? = some text <-> v.untagged = .string text := by
  rw [Value.string?]
  cases v.untagged <;> simp

theorem string?_eq_none_iff_untagged :
    v.string? = none <-> forall text, v.untagged ≠ .string text := by
  rw [Value.string?]
  cases v.untagged <;> simp

theorem singleEntry?_eq_some_iff_hasEntry :
    singleEntry? v = some (key, body) <-> HasEntry v key body := by
  unfold HasEntry singleEntry? Value.mapping?
  constructor
  · intro h
    split at h
    · rename_i k b hentries
      rcases Option.map_eq_some_iff.mp h with ⟨name, hname, hpair⟩
      cases hpair
      refine ⟨k, ?_, string?_eq_some_iff_untagged.mp hname⟩
      split at hentries
      · rename_i entries hmapping
        cases hentries
        exact hmapping
      · cases hentries
    · cases h
  · rintro ⟨k, hmapping, hkey⟩
    rw [hmapping]
    dsimp only
    rw [string?_eq_some_iff_untagged.mpr hkey]
    rfl

theorem singleEntry?_eq_none_iff_hasEntry :
    singleEntry? v = none <-> forall key body, ¬HasEntry v key body := by
  simp only [← singleEntry?_eq_some_iff_hasEntry]
  cases singleEntry? v with
  | none => simp
  | some entry =>
      constructor
      · intro h
        cases h
      · intro h
        exact absurd rfl (h entry.1 entry.2)

theorem HasEntry.unique (h : HasEntry v key body) (h' : HasEntry v key' body') :
    key = key' ∧ body = body' := by
  have heq := singleEntry?_eq_some_iff_hasEntry.mpr h
  rw [singleEntry?_eq_some_iff_hasEntry.mpr h'] at heq
  cases heq
  exact ⟨rfl, rfl⟩

theorem ReadsAs.unique {read : Value -> Except BodyError β} {b b' : β} (h : ReadsAs key read v b)
    (h' : ReadsAs key read v b') : b = b' := by
  rcases h with ⟨body, hentry, hb⟩
  rcases h' with ⟨body', hentry', hb'⟩
  rw [← (hentry.unique hentry').right, hb] at hb'
  cases hb'
  rfl

theorem not_hasEntry_string {word : String} : ¬HasEntry (.string word) key body := by
  rintro ⟨k, hmapping, _⟩
  cases hmapping

end

end Workflow
end Colloquy
