import Colloquy.Proofs.Results
import Colloquy.Proofs.Workflow.Grammar

/-!
# Loading of action lists

An action list is accepted exactly if its items are well shaped and only the last one is a
transfer, and it is loaded as the actions that its items stand for.
-/

namespace Colloquy
namespace Workflow

open Yaml (Value)
open Template (KnownCalls Reads)

/-!
# Values without tags

A plain value is what it looks like: nothing has to be taken off before it is read.
-/

theorem untagged_of_isPlain {v : Value} (h : v.IsPlain) : v.untagged = v := by
  cases h <;> rfl

@[simp] theorem isPlain_string (s : String) : (Value.string s).IsPlain :=
  Value.IsPlain.string s

@[simp] theorem isPlain_sequence_iff {items : List Value} :
    (Value.sequence items).IsPlain <-> forall v, v ∈ items -> v.IsPlain := by
  constructor
  · intro h
    cases h with
    | sequence hitems => exact hitems
  · exact Value.IsPlain.sequence

@[simp] theorem isPlain_mapping_iff {entries : List (Value × Value)} :
    (Value.mapping entries).IsPlain <->
      forall e, e ∈ entries -> e.1.IsPlain ∧ e.2.IsPlain := by
  constructor
  · intro h
    cases h with
    | mapping hkeys hvalues => exact fun e he => ⟨hkeys e he, hvalues e he⟩
  · intro h
    exact Value.IsPlain.mapping (fun e he => (h e he).left) fun e he => (h e he).right

theorem isPlain_of_single {key : String} {body : Value} (h : (single key body).IsPlain) :
    body.IsPlain :=
  (isPlain_mapping_iff.mp h _ List.mem_cons_self).right

theorem string?_eq_some_iff {v : Value} {s : String} (hv : v.IsPlain) :
    v.string? = some s <-> v = .string s := by
  rw [Value.string?, untagged_of_isPlain hv]
  cases v <;> simp

theorem singleEntry?_eq_some_iff {v body : Value} {key : String} (hv : v.IsPlain) :
    singleEntry? v = some (key, body) <-> v = single key body := by
  constructor
  · intro h
    unfold singleEntry? at h
    split at h
    · rename_i k b hentries
      rw [Value.mapping?, untagged_of_isPlain hv] at hentries
      cases hv with
      | mapping hkeys _ =>
          cases hentries
          rcases Option.map_eq_some_iff.mp h with ⟨name, hname, hpair⟩
          cases hpair
          have hkey : k.IsPlain := hkeys _ List.mem_cons_self
          rw [(string?_eq_some_iff hkey).mp hname]
          rfl
      | _ => cases hentries
    · cases h
  · intro h
    rw [h]
    rfl

/-!
# Action lists
-/

theorem template_eq_ok_iff {text : String} {t : Template} :
    Load.template text = .ok t <-> Reads text t := by
  rw [← Template.parse_eq_ok_iff, Load.template]
  cases Template.parse text with
  | ok t' => simp
  | error e => simp

theorem actionItem_goto_iff {known : List String} {target : String} :
    ActionItem known (single "goto" (.string target)) <-> target ∈ known := by
  constructor
  · intro h
    generalize hv : single "goto" (.string target) = v at h
    cases h with
    | goto htarget =>
        cases hv
        exact htarget
    | _ => simp [single] at hv
  · exact ActionItem.goto

theorem isTransferItem_iff {v : Value} {a : Action} (h : ActionItem.Means v a) :
    IsTransferItem v <-> a.isTransfer = true := by
  cases h with
  | finish => simp [IsTransferItem, Action.isTransfer]
  | goto => simp [IsTransferItem, Action.isTransfer, single]
  | systemMessage => simp [IsTransferItem, Action.isTransfer, single]
  | message => simp [IsTransferItem, Action.isTransfer, single]
  | longMessage => simp [IsTransferItem, Action.isTransfer, single]

theorem goto_eq_ok_iff {known : List String} (index : Nat) {body : Value} {a : Action}
    (hbody : body.IsPlain) :
    Load.goto known index body = .ok a <->
      exists target, body = .string target ∧ target ∈ known ∧ a = .goto target := by
  unfold Load.goto
  cases htarget : body.string? with
  | none =>
      constructor
      · intro h
        cases h
      · intro h
        rcases h with ⟨target, rfl, _⟩
        cases htarget
  | some target =>
      rw [(string?_eq_some_iff hbody).mp htarget]
      by_cases hknown : target ∈ known
      · simp [hknown, eq_comm]
      · simp [hknown]

theorem systemMessage_eq_ok_iff (index : Nat) {body : Value} {a : Action}
    (hbody : body.IsPlain) :
    Load.systemMessage index body = .ok a <->
      exists text t, body = .string text ∧ Reads text t ∧ a = .systemMessage t := by
  unfold Load.systemMessage
  cases htext : body.string? with
  | none =>
      constructor
      · intro h
        cases h
      · intro h
        rcases h with ⟨text, t, rfl, _⟩
        cases htext
  | some text =>
      rw [(string?_eq_some_iff hbody).mp htext]
      simp only [map_eq_ok_iff, template_eq_ok_iff, Value.string.injEq]
      constructor
      · intro h
        rcases h with ⟨t, ht, rfl⟩
        exact ⟨text, t, rfl, ht, rfl⟩
      · intro h
        rcases h with ⟨_, t, rfl, ht, rfl⟩
        exact ⟨t, ht, rfl⟩

theorem message_eq_ok_iff (index : Nat) {body : Value} {a : Action} :
    Load.message index body = .ok a <->
      ActionItem.Means (single "message" body) a := by
  unfold Load.message
  constructor
  · intro h
    rcases bind_eq_ok_iff.mp h with ⟨b, hb, h⟩
    rcases bind_eq_ok_iff.mp h with ⟨t, ht, h⟩
    have hreads := template_eq_ok_iff.mp ht
    cases h
    unfold Load.messageBody at hb
    split at hb
    · cases hb
      exact ActionItem.Means.message hreads
    · split at hb
      · cases hb
        exact ActionItem.Means.longMessage ‹_› hreads
      · cases hb
    · cases hb
  · intro h
    generalize hv : single "message" body = v at h
    cases h with
    | message ht =>
        cases hv
        exact bind_eq_ok_iff.mpr ⟨_, rfl, bind_eq_ok_iff.mpr ⟨_, template_eq_ok_iff.mpr ht, rfl⟩⟩
    | longMessage hb ht =>
        cases hv
        refine bind_eq_ok_iff.mpr ⟨_, ?_, bind_eq_ok_iff.mpr ⟨_, template_eq_ok_iff.mpr ht, rfl⟩⟩
        rw [Load.messageBody, hb]
    | _ => simp [single] at hv

theorem knownCalls_of_reads {text : String} {t : Template} (h : Reads text t) :
    KnownCalls text :=
  Template.exists_reads_iff.mp ⟨t, h⟩

/-- Apart from a `goto` an item that stands for an action is well shaped. -/
theorem actionItem_message {known : List String} {body : Value} {a : Action}
    (h : ActionItem.Means (single "message" body) a) :
    ActionItem known (single "message" body) := by
  generalize hv : single "message" body = v at h
  cases h with
  | message ht => exact ActionItem.message (knownCalls_of_reads ht)
  | longMessage hb ht => exact ActionItem.longMessage hb (knownCalls_of_reads ht)
  | _ => simp [single] at hv

theorem action_single_eq {known : List String} {index : Nat} {key : String} {body : Value} :
    Load.action known index (single key body) =
      if key == "goto" then Load.goto known index body
      else if key == "system_message" then Load.systemMessage index body
      else if key == "message" then Load.message index body
      else .error (Load.malformed index (.unknown key)) :=
  rfl

theorem action_eq_ok_iff {known : List String} {index : Nat} {v : Value} {a : Action}
    (hv : v.IsPlain) :
    Load.action known index v = .ok a <-> ActionItem known v ∧ ActionItem.Means v a := by
  constructor
  · intro h
    cases hentry : singleEntry? v with
    | none =>
        unfold Load.action at h
        split at h
        · split at h
          · rename_i word hword
            rw [beq_iff_eq.mp hword]
            cases h
            exact ⟨ActionItem.finish, ActionItem.Means.finish⟩
          · cases h
        · rw [hentry] at h
          cases h
    | some entry =>
        rcases entry with ⟨key, body⟩
        have hsingle := (singleEntry?_eq_some_iff hv).mp hentry
        subst hsingle
        have hbody := isPlain_of_single hv
        rw [action_single_eq] at h
        split at h
        · rename_i hkey
          rw [beq_iff_eq.mp hkey]
          rcases (goto_eq_ok_iff index hbody).mp h with ⟨target, rfl, hknown, rfl⟩
          exact ⟨ActionItem.goto hknown, ActionItem.Means.goto⟩
        · split at h
          · rename_i hkey
            rw [beq_iff_eq.mp hkey]
            rcases (systemMessage_eq_ok_iff index hbody).mp h with ⟨text, t, rfl, ht, rfl⟩
            exact ⟨ActionItem.systemMessage (knownCalls_of_reads ht),
              ActionItem.Means.systemMessage ht⟩
          · split at h
            · rename_i hkey
              rw [beq_iff_eq.mp hkey]
              have hmeans := (message_eq_ok_iff index).mp h
              exact ⟨actionItem_message hmeans, hmeans⟩
            · cases h
  · intro h
    rcases h with ⟨hitem, hmeans⟩
    cases hmeans with
    | finish => rfl
    | goto =>
        rw [action_single_eq]
        exact (goto_eq_ok_iff index (isPlain_of_single hv)).mpr
          ⟨_, rfl, actionItem_goto_iff.mp hitem, rfl⟩
    | systemMessage ht =>
        rw [action_single_eq]
        exact (systemMessage_eq_ok_iff index (isPlain_of_single hv)).mpr ⟨_, _, rfl, ht, rfl⟩
    | message ht =>
        rw [action_single_eq]
        exact (message_eq_ok_iff index).mpr (ActionItem.Means.message ht)
    | longMessage hb ht =>
        rw [action_single_eq]
        exact (message_eq_ok_iff index).mpr (ActionItem.Means.longMessage hb ht)

theorem ActionItem.exists_means {known : List String} {v : Value} (h : ActionItem known v) :
    exists a, ActionItem.Means v a := by
  cases h with
  | finish => exact ⟨_, ActionItem.Means.finish⟩
  | goto => exact ⟨_, ActionItem.Means.goto⟩
  | systemMessage hcalls =>
      rcases Template.exists_reads_iff.mpr hcalls with ⟨t, ht⟩
      exact ⟨_, ActionItem.Means.systemMessage ht⟩
  | message hcalls =>
      rcases Template.exists_reads_iff.mpr hcalls with ⟨t, ht⟩
      exact ⟨_, ActionItem.Means.message ht⟩
  | longMessage hb hcalls =>
      rcases Template.exists_reads_iff.mpr hcalls with ⟨t, ht⟩
      exact ⟨_, ActionItem.Means.longMessage hb ht⟩

theorem actionsFrom_eq_ok_iff {known : List String} {items : List Value}
    {actions : List Action} (hplain : forall v, v ∈ items -> v.IsPlain) (index : Nat) :
    Load.actionsFrom known index items = .ok actions <->
      (forall v, v ∈ items -> ActionItem known v) ∧ ActionList.Means items actions := by
  unfold ActionList.Means
  induction items generalizing actions index with
  | nil =>
      rw [Load.actionsFrom, List.forall₂_nil_left_iff]
      constructor
      · intro h
        cases h
        exact ⟨fun v hv => (List.not_mem_nil hv).elim, rfl⟩
      · intro h
        rw [h.right]
  | cons v items ih =>
      have hv := hplain v List.mem_cons_self
      have hrest : forall w, w ∈ items -> w.IsPlain :=
        fun w hw => hplain w (List.mem_cons_of_mem _ hw)
      rw [Load.actionsFrom, bind_eq_ok_iff, List.forall_mem_cons, List.forall₂_cons_left_iff]
      constructor
      · intro h
        rcases h with ⟨a, ha, h⟩
        rcases bind_eq_ok_iff.mp h with ⟨more, hmore, h⟩
        cases h
        rcases (action_eq_ok_iff hv).mp ha with ⟨hitem, hmeans⟩
        rcases (ih hrest _).mp hmore with ⟨hitems, hmeansRest⟩
        exact ⟨⟨hitem, hitems⟩, a, more, hmeans, hmeansRest, rfl⟩
      · intro h
        rcases h with ⟨⟨hitem, hitems⟩, a, more, hmeans, hmeansRest, rfl⟩
        exact ⟨a, (action_eq_ok_iff hv).mpr ⟨hitem, hmeans⟩,
          bind_eq_ok_iff.mpr ⟨more, (ih hrest _).mpr ⟨hitems, hmeansRest⟩, rfl⟩⟩

theorem afterTransfer?_cons (a : Action) (actions : List Action) :
    Load.afterTransfer? (a :: actions) =
      if a.isTransfer then (if actions.isEmpty then none else some 1)
      else (Load.afterTransfer? actions).map (· + 1) := by
  unfold Load.afterTransfer?
  rw [List.findIdx?_cons]
  cases a.isTransfer with
  | true =>
      cases actions with
      | nil => rfl
      | cons b actions => simp
  | false =>
      cases List.findIdx? Action.isTransfer actions with
      | none => rfl
      | some position =>
          simp only [List.length_cons, Option.map_some, Bool.false_eq_true, if_false]
          by_cases h : position + 1 < actions.length
          · rw [if_pos h, if_pos (by omega)]
            rfl
          · rw [if_neg h, if_neg (by omega)]
            rfl

theorem afterTransfer?_eq_none_iff {actions : List Action} :
    Load.afterTransfer? actions = none <->
      actions.IsChain fun a _ => a.isTransfer = false := by
  induction actions with
  | nil =>
      constructor
      · intro _
        exact List.isChain_nil
      · intro _
        rfl
  | cons a actions ih =>
      rw [afterTransfer?_cons]
      cases actions with
      | nil =>
          constructor
          · intro _
            exact List.isChain_singleton a
          · intro _
            cases a.isTransfer with
            | true => rfl
            | false => rfl
      | cons b actions =>
          rw [List.isChain_cons_cons]
          cases a.isTransfer with
          | true => simp
          | false =>
              simp only [Bool.false_eq_true, if_false, Option.map_eq_none_iff, true_and]
              exact ih

theorem isChain_iff_of_means {items : List Value} {actions : List Action}
    (h : ActionList.Means items actions) :
    (items.IsChain fun v _ => ¬IsTransferItem v) <->
      actions.IsChain fun a _ => a.isTransfer = false := by
  unfold ActionList.Means at h
  induction h with
  | nil => simp
  | cons hitem hrest ih =>
      cases hrest with
      | nil => simp
      | cons hnext _ =>
          rw [List.isChain_cons_cons, List.isChain_cons_cons, ih, isTransferItem_iff hitem,
            Bool.not_eq_true]

theorem actions_eq_ok_iff {known : List String} {items : List Value} {as : List Action}
    (hplain : forall v, v ∈ items -> v.IsPlain) :
    Load.actions known items = .ok as <->
      ActionList known items ∧ ActionList.Means items as := by
  unfold Load.actions
  rw [bind_eq_ok_iff]
  constructor
  · intro h
    rcases h with ⟨as', has, h⟩
    rcases (actionsFrom_eq_ok_iff hplain 0).mp has with ⟨hitems, hmeans⟩
    split at h
    · cases h
    · rename_i hnone
      cases h
      have hclosed := (isChain_iff_of_means hmeans).mpr (afterTransfer?_eq_none_iff.mp hnone)
      exact ⟨⟨hitems, hclosed⟩, hmeans⟩
  · intro h
    rcases h with ⟨hlist, hmeans⟩
    refine ⟨as, (actionsFrom_eq_ok_iff hplain 0).mpr ⟨hlist.shaped, hmeans⟩, ?_⟩
    rw [afterTransfer?_eq_none_iff.mpr ((isChain_iff_of_means hmeans).mp hlist.closed)]
    rfl

theorem ActionList.exists_means {known : List String} {items : List Value}
    (h : ActionList known items) : exists as, ActionList.Means items as :=
  exists_forall₂ fun v hv => (h.shaped v hv).exists_means

end Workflow
end Colloquy
