import Colloquy.Proofs.Dialogue.Comparison
import Colloquy.Proofs.Run.Ledger

/-!
# Runs side by side

Two runs of one agent, whose options differ in the limits or in the pruning policy, are
compared in step.  The runners differ in their transcripts at most.  As long as the
transcripts hold the same messages, nothing that a run decides depends on the difference;
and a limit does nothing but end the run that comes to it.
-/

namespace Colloquy

open Workflow (Action Agent Clause Conditions State)
open Pruning (Policy)

/-!
# Templates

Rendering reads nothing of a runner, so the same template and the same reply keep in step.
-/

namespace Comparison

variable {k : Comparison σ ε} {renderer : Template.Renderer ε} {reply : String}

theorem relates_call {f : Function} :
    k.Relates (renderer.call reply f) (renderer.call reply f) Eq := by
  unfold Template.Renderer.call
  split
  · cases f with
    | python => exact relates_execute.bind_eq fun _ => relates_pure rfl
    | rtfm =>
        refine relates_search.bind_eq fun snippets => ?_
        split
        · exact relates_pure rfl
        · exact relates_ask.bind_eq fun _ => relates_pure rfl
  · exact relates_pure rfl

theorem relates_segments {segments : List Segment} :
    k.Relates (renderer.segments reply segments) (renderer.segments reply segments) Eq := by
  induction segments with
  | nil => exact relates_pure rfl
  | cons s rest ih =>
      have hfirst : k.Relates (renderer.segment reply s) (renderer.segment reply s) Eq := by
        cases s with
        | text t => exact relates_pure rfl
        | call f => exact relates_call
      exact hfirst.bind_eq fun _ => ih.bind_eq fun _ => relates_pure rfl

end Comparison

namespace Runner

open Comparison

/-!
# Runners that differ in their transcripts

All that a runner reads of its transcript is the latest reply and the context of a request.
Where two transcripts agree on the first, the runners go on in step.
-/

/-- The second runner is the first with another transcript. -/
structure Like (same : Transcript -> Transcript -> Prop) (r r' : Runner) : Prop where
  same_transcript : same r.transcript r'.transcript
  eq : r' = { r with transcript := r'.transcript }

/-- Two runs of an agent are compared by their transcripts, their contexts and the failures
with which the first may give up. -/
def sideBySide (same : Transcript -> Transcript -> Prop)
    (sent : List Message -> List Message -> Prop) (stops : RunError -> Prop) :
    Comparison Runner RunError where
  like := Like same
  sent := sent
  stops := stops

/-- The limit of the second run is that of the first, or is no less, and then the first may
give up at its own. -/
def Outlasts (mayStop : Prop) (limit limit' : Nat) : Prop :=
  limit = limit' ∨ limit <= limit' ∧ mayStop

theorem Outlasts.le {mayStop : Prop} {limit limit' : Nat} (h : Outlasts mayStop limit limit') :
    limit <= limit' := by
  rcases h with hsame | ⟨hle, _⟩
  · exact Nat.le_of_eq hsame
  · exact hle

structure Twins (same : Transcript -> Transcript -> Prop)
    (sent : List Message -> List Message -> Prop) (stops : RunError -> Prop)
    (w w' : Setting) : Prop where
  agent_eq : w'.agent = w.agent
  topK_eq : w'.options.topK = w.options.topK
  transitions : Outlasts (stops (.tooManyTransitions w.agent.name w.options.maxTransitions))
    w.options.maxTransitions w'.options.maxTransitions
  turns : Outlasts (stops (.tooManyTurns w.agent.name w.options.maxTurns))
    w.options.maxTurns w'.options.maxTurns
  sent : forall {t t'}, same t t' -> sent (Transcript.context w.options.pruning t)
    (Transcript.context w'.options.pruning t')
  carried : forall {t t'}, same t t' -> same (Transcript.afterRequest w.options.pruning t)
    (Transcript.afterRequest w'.options.pruning t')
  pushed : forall {t t'} (m : Message), same t t' -> same (t.push m) (t'.push m)
  lastReply?_eq : forall {t t'}, same t t' -> Transcript.lastReply? t = Transcript.lastReply? t'

section

variable {same : Transcript -> Transcript -> Prop} {sent : List Message -> List Message -> Prop}
  {stops : RunError -> Prop} {w w' : Setting} {state : State}

theorem relates_modify_same {f g : Runner -> Runner}
    (h : forall (r : Runner) {t : Transcript}, same r.transcript t ->
      Like same (f r) (g { r with transcript := t })) :
    (sideBySide same sent stops).Relates (Act.modify f) (Act.modify g) Eq := by
  refine relates_modify ?_
  intro r r' hlike
  rw [hlike.eq]
  exact h r hlike.same_transcript

theorem relates_modify_other {f : Runner -> Runner}
    (h : forall r t, f { r with transcript := t } = { f r with transcript := t }) :
    (sideBySide same sent stops).Relates (Act.modify f) (Act.modify f) Eq := by
  refine relates_modify_same fun r t hsame => ?_
  have hkept : f r = { f r with transcript := r.transcript } := h r r.transcript
  rw [h r t, hkept]
  exact ⟨hsame, rfl⟩

theorem relates_read {f g : Runner -> Step α} {v : α -> α -> Prop}
    (h : forall (r : Runner) {t : Transcript}, same r.transcript t ->
      (sideBySide same sent stops).Relates (f r) (g { r with transcript := t }) v) :
    (sideBySide same sent stops).Relates (Act.get >>= f) (Act.get >>= g) v := by
  refine relates_get.bind ?_
  intro r r' hlike
  rw [hlike.eq]
  exact h r hlike.same_transcript

variable (h : Twins same sent stops w w')

include h

theorem Twins.append {m : Message} :
    (sideBySide same sent stops).Relates (append m) (append m) Eq :=
  relates_ask.bind_eq fun _ => relates_modify_same fun _ _ hsame => ⟨h.pushed m hsame, rfl⟩

theorem Twins.request :
    (sideBySide same sent stops).Relates (request w state) (request w' state) Eq := by
  unfold Runner.request
  -- The limit is checked before anything is asked or changed but the number of turns.
  refine (relates_modify_other fun _ _ => rfl).bind_eq fun _ =>
    relates_read fun r t hsame => ?_
  by_cases hover : w.options.maxTurns < r.turns
  · rw [if_pos hover]
    rcases h.turns with hlimit | ⟨_, hstops⟩
    · rw [← hlimit, if_pos hover, h.agent_eq]
      exact relates_fail
    · exact relates_stopped hstops
  · have hunder : ¬ w'.options.maxTurns < r.turns := by
      have hle := h.turns.le
      omega
    rw [if_neg hover, if_neg hunder]
    refine (relates_modify_same fun _ _ hsame => ⟨h.carried hsame, rfl⟩).bind_eq fun _ =>
      (relates_complete (h.sent hsame)).bind_eq fun reply =>
      (relates_modify_other fun _ _ => rfl).bind_eq fun _ =>
      h.append.bind_eq fun _ => relates_modify_other fun _ _ => rfl

theorem Twins.observe :
    (sideBySide same sent stops).Relates (observe w state) (observe w' state) Eq := by
  refine relates_read fun r t hsame => ?_
  rw [← h.lastReply?_eq hsame]
  show (sideBySide same sent stops).Relates _ (if r.turnOwed then _ else _) Eq
  split
  · refine (relates_modify_other fun _ _ => rfl).bind_eq fun _ => ?_
    split
    · exact h.request
    · exact relates_pure rfl
  · exact relates_pure rfl

theorem Twins.render {t : Template} :
    (sideBySide same sent stops).Relates (render w state t) (render w' state t) Eq := by
  have hread : (sideBySide same sent stops).Relates (do
      let r <- Act.get
      let reply := (Transcript.lastReply? r.transcript).map Message.text
      Template.Renderer.render ⟨.service, w.options.topK⟩ t reply) (do
      let r <- Act.get
      let reply := (Transcript.lastReply? r.transcript).map Message.text
      Template.Renderer.render ⟨.service, w'.options.topK⟩ t reply) Eq := by
    refine relates_read fun r t hsame => ?_
    rw [h.topK_eq, ← h.lastReply?_eq hsame]
    exact relates_segments
  unfold Runner.render
  split
  · exact h.observe.bind_eq fun _ => hread
  · exact hread

theorem Twins.execute {as : List Action} :
    (sideBySide same sent stops).Relates (execute w state as) (execute w' state as) Eq := by
  induction as with
  | nil => exact relates_pure rfl
  | cons a rest ih =>
      have hmessage : forall (t : Template) (m : String -> Message),
          (sideBySide same sent stops).Relates (do
            let text <- Runner.render w state t
            Runner.append (m text)
            Runner.execute w state rest) (do
            let text <- Runner.render w' state t
            Runner.append (m text)
            Runner.execute w' state rest) Eq :=
        fun _ _ => h.render.bind_eq fun _ => h.append.bind_eq fun _ => ih
      cases a with
      | goto target =>
          unfold Runner.execute
          rw [h.agent_eq]
          split
          · exact relates_ask.bind_eq fun _ => relates_pure rfl
          · exact relates_fail
      | message t role importance ttl => exact hmessage t _
      | systemMessage t => exact hmessage t _
      | finish => exact relates_pure rfl

theorem Twins.selectFrom {fallback : List Action} {clauses : List Clause} {i : Nat} :
    (sideBySide same sent stops).Relates (selectFrom w state fallback i clauses)
      (selectFrom w' state fallback i clauses) Eq := by
  induction clauses generalizing i with
  | nil => exact relates_ask.bind_eq fun _ => relates_pure rfl
  | cons clause rest ih =>
      have hjudged : forall holds : Bool, (sideBySide same sent stops).Relates
          (if holds then do
            Act.tell (.branched (some i))
            pure clause.actions
          else Runner.selectFrom w state fallback (i + 1) rest)
          (if holds then do
            Act.tell (.branched (some i))
            pure clause.actions
          else Runner.selectFrom w' state fallback (i + 1) rest) Eq := by
        intro holds
        split
        · exact relates_ask.bind_eq fun _ => relates_pure rfl
        · exact ih
      refine h.observe.bind_eq fun _ => relates_read fun r t hsame => ?_
      rw [← h.lastReply?_eq hsame]
      exact relates_ask.bind_eq fun _ => hjudged _

/-!
# Visits
-/

theorem Twins.evaluate :
    (sideBySide same sent stops).Relates (evaluate w state) (evaluate w' state) Eq := by
  unfold Runner.evaluate
  split
  · exact relates_fail
  · have hstays : (sideBySide same sent stops).Relates (finishStay w state)
        (finishStay w' state) Eq :=
      (relates_modify_other fun _ _ => rfl).bind_eq fun _ => h.request.bind_eq
        fun _ => relates_modify_other fun _ _ => rfl
    refine (relates_modify_other fun _ _ => rfl).bind_eq fun _ =>
      h.selectFrom.bind_eq fun _ => h.execute.bind_eq fun flow => ?_
    split
    · exact hstays.bind_eq fun _ => relates_pure rfl
    · exact relates_pure rfl

theorem Twins.visit {index : Nat} {entering : Bool} :
    (sideBySide same sent stops).Relates (visit w index entering state)
      (visit w' index entering state) Eq := by
  unfold Runner.visit
  split
  · refine relates_ask.bind_eq fun _ =>
      (relates_modify_other fun _ _ => rfl).bind_eq fun _ =>
      h.execute.bind_eq fun flow => ?_
    split
    · exact h.evaluate
    · exact relates_pure rfl
  · exact h.evaluate

/-- The induction over the visits of the first run, which are no more than the second may
make. -/
theorem Twins.drive {left left' index : Nat} {entering : Bool}
    (hleft : w.options.maxTransitions + left' = w'.options.maxTransitions + left) :
    (sideBySide same sent stops).Relates (drive w left index entering)
      (drive w' left' index entering) Eq := by
  induction left generalizing left' index entering with
  | zero =>
      rcases h.transitions with hlimit | ⟨_, hstops⟩
      · have hzero : left' = 0 := by omega
        rw [hzero]
        unfold Runner.drive
        rw [← hlimit, h.agent_eq]
        exact (relates_modify_other fun _ _ => rfl).bind_eq fun _ => relates_fail
      · exact fun _ _ _ => .stopped hstops
  | succ left ih =>
      have hle := h.transitions.le
      obtain ⟨left', rfl⟩ : exists n, left' = n + 1 := ⟨left' - 1, by omega⟩
      unfold Runner.drive
      rw [h.agent_eq]
      refine (relates_modify_other fun _ _ => rfl).bind_eq fun _ => ?_
      split
      · exact relates_fail
      · refine h.visit.bind_eq fun flow => ?_
        cases flow with
        | stay => exact ih (by omega)
        | finish => exact relates_pure rfl
        | goto next => exact ih (by omega)

theorem Twins.run (hstart : same [] []) :
    (sideBySide same sent stops).Matches Eq (run w) (run w') := by
  unfold Runner.run
  rw [h.agent_eq]
  refine (h.drive (Nat.add_comm _ _) {} {} ⟨hstart, rfl⟩).bind ?_ ?_ ?_
  · rintro r r' _ _ ⟨hsame, hr⟩ rfl
    rw [hr]
    exact .done ⟨hsame, rfl⟩ rfl
  · rintro r r' e ⟨hsame, hr⟩
    rw [hr]
    exact .failed ⟨hsame, rfl⟩
  · intro r e d hstops
    exact .stopped hstops

end

end Runner

/-!
# Limits

A lower limit shows only where it is exceeded, and there the run fails.
-/

def RunError.isLimit : RunError -> Bool
  | tooManyTransitions _ _ => true
  | tooManyTurns _ _ => true
  | unknownState _ => false
  | noWayOut _ => false
  | noSuchState _ => false
  | service _ => false

def Options.withLimits (o : Options) (maxTransitions maxTurns : Nat) : Options :=
  { o with maxTransitions := maxTransitions, maxTurns := maxTurns }

def Options.withPolicy (o : Options) (p : Policy) : Options :=
  { o with pruning := p }

namespace Runner

open Comparison

section

variable {agent : Agent} {o : Options}

theorem eq_of_like {r r' : Runner} (h : Like Eq r r') : r = r' := by
  rw [h.eq, ← h.same_transcript]

theorem twins_of_limits {maxTransitions maxTurns : Nat}
    (htransitions : o.maxTransitions <= maxTransitions) (hturns : o.maxTurns <= maxTurns) :
    Twins Eq Eq (fun e => e.isLimit = true) ⟨agent, o⟩
      ⟨agent, o.withLimits maxTransitions maxTurns⟩ where
  agent_eq := rfl
  topK_eq := rfl
  transitions := Or.inr ⟨htransitions, rfl⟩
  turns := Or.inr ⟨hturns, rfl⟩
  sent := fun h => congrArg _ h
  carried := fun h => congrArg _ h
  pushed := fun m h => congrArg (Transcript.push · m) h
  lastReply?_eq := fun h => congrArg _ h

theorem messages_of_play {w : Setting} {answer : Dialogue.Answerer τ} {t : τ} :
    ((run w).play answer t).2.1.transcript.messages = Course.appended ((run w).course answer t) :=
  messages_of_run (Dialogue.ends_course answer t (run w))

/-- A limit only cuts a run short: with higher limits the run begins with the same exchanges,
and so its transcript with the same messages.  A run that does not come to a limit is the
same run with higher ones. -/
theorem limits_only_cut_short (agent : Agent) (o : Options) {maxTransitions maxTurns : Nat}
    (htransitions : o.maxTransitions <= maxTransitions) (hturns : o.maxTurns <= maxTurns)
    (answer : Dialogue.Answerer τ) (t : τ) :
    (run ⟨agent, o⟩).course answer t <+:
        (run ⟨agent, o.withLimits maxTransitions maxTurns⟩).course answer t ∧
      ((run ⟨agent, o⟩).play answer t).2.1.transcript.messages <+:
        ((run ⟨agent, o.withLimits maxTransitions maxTurns⟩).play
          answer t).2.1.transcript.messages ∧
      ((forall e, ((run ⟨agent, o⟩).play answer t).2.2 = .error e -> e.isLimit = false) ->
        (run ⟨agent, o.withLimits maxTransitions maxTurns⟩).course answer t =
            (run ⟨agent, o⟩).course answer t ∧
          (run ⟨agent, o.withLimits maxTransitions maxTurns⟩).play answer t =
            (run ⟨agent, o⟩).play answer t) := by
  rcases ((twins_of_limits htransitions hturns).run rfl).along answers_self (rfl : t = t) with
    ⟨front, back, hcourse, hfront, hend⟩
  have hsame : (run ⟨agent, o⟩).course answer t = front :=
    List.forall₂_eq_eq_eq ▸ hfront.imp fun x y h => h.eq (fun _ _ => eq_of_like) fun _ _ => id
  rw [← hsame] at hcourse
  refine ⟨⟨back, hcourse.symm⟩, ?_, ?_⟩
  · rw [messages_of_play, messages_of_play, hcourse]
    exact ⟨Course.appended back, List.filterMap_append.symm⟩
  · intro hfree
    rcases hend with ⟨e, he, hlimit⟩ | ⟨rfl, hmemory, hrunner, hresult⟩
    · have hlimit : e.isLimit = true := hlimit
      rw [hfree e he] at hlimit
      cases hlimit
    · refine ⟨hcourse.trans (List.append_nil _), ?_⟩
      exact (Prod.ext hmemory (Prod.ext (eq_of_like hrunner) hresult)).symm

end

def waiter : Agent where
  name := "waiter"
  states := [
    { name := "wait"
      entry := some [.systemMessage ⟨[.text "Is it ready?"]⟩]
      conditions := some {
        clauses := [⟨.contains "done", [.finish]⟩]
        fallback := [.message ⟨[.text "And now?"]⟩ .user .low (some 0)] } }]

/-- With two turns the agent gives up where it goes on otherwise.  Three visits with
three turns are enough. -/
theorem waiter_cut_short :
    ((run ⟨waiter, { maxTurns := 2 }⟩).play (Dialogue.scripted (.ok [])) ["no", "no", "done"]).2.2 =
        .error (.tooManyTurns "waiter" 2) ∧
      (exists x rest, (run ⟨waiter, {}⟩).course (Dialogue.scripted (.ok [])) ["no", "no", "done"] =
        (run ⟨waiter, { maxTurns := 2 }⟩).course (Dialogue.scripted (.ok []))
          ["no", "no", "done"] ++ x :: rest) ∧
      (run ⟨waiter, {}⟩).play (Dialogue.scripted (.ok [])) ["no", "no", "done"] =
        (run ⟨waiter, { maxTransitions := 3, maxTurns := 3 }⟩).play (Dialogue.scripted (.ok []))
          ["no", "no", "done"] := by
  have htwo := limits_only_cut_short waiter { maxTurns := 2 } (by decide : 1000 <= 1000)
    (by decide : 2 <= 100) (Dialogue.scripted (.ok [])) ["no", "no", "done"]
  have hthree := limits_only_cut_short waiter { maxTransitions := 3, maxTurns := 3 }
    (by decide : 3 <= 1000) (by decide : 3 <= 100) (Dialogue.scripted (.ok [])) ["no", "no", "done"]
  refine ⟨by decide +kernel, ?_, (hthree.right.right ?_).right⟩
  · rcases htwo.left with ⟨rest, hrest⟩
    cases rest with
    | nil => exact absurd (congrArg List.length hrest) (by decide +kernel)
    | cons x rest => exact ⟨x, rest, hrest.symm⟩
  · have hok : ((run ⟨waiter, { maxTransitions := 3, maxTurns := 3 }⟩).play
        (Dialogue.scripted (.ok [])) ["no", "no", "done"]).2.2 = .ok () := by decide +kernel
    intro e he
    rw [hok] at he
    cases he

end Runner

/-!
# Policies

A policy decides what a request carries and what is counted as carried, but no message is
dropped from a transcript.
-/

def Transcript.bare (t : Transcript) : Transcript :=
  t.messages.map fun m => { message := m }

def Runner.bare (r : Runner) : Runner :=
  { r with transcript := r.transcript.bare }

/-- The exchange but for what a policy decides: what a request carries is left out. -/
def Exchange.bare : Exchange Runner -> Exchange Runner
  | ⟨r, .complete model _, answer⟩ => ⟨r.bare, .complete model [], answer⟩
  | ⟨r, q, answer⟩ => ⟨r.bare, q, answer⟩

namespace Runner

open Comparison

def SameMessages (t t' : Transcript) : Prop :=
  t.messages = t'.messages

section

variable {agent : Agent} {o : Options} {p p' : Policy}

theorem Like.bare_eq {r r' : Runner} (h : Like SameMessages r r') : r.bare = r'.bare := by
  rw [h.eq, bare, bare, Transcript.bare, h.same_transcript]
  rfl

theorem bare_eq_of_alike {sent : List Message -> List Message -> Prop} {stops : RunError -> Prop}
    {x x' : Exchange Runner} (h : (sideBySide SameMessages sent stops).Alike x x') :
    x.bare = x'.bare := by
  cases h with
  | @asked _ _ q _ hlike =>
      cases q <;> exact congrArg (Exchange.mk · _ _) hlike.bare_eq
  | requested hlike _ => exact congrArg (Exchange.mk · _ _) hlike.bare_eq

theorem twins_of_policies :
    Twins SameMessages (fun _ _ => True) (fun _ => False) ⟨agent, o.withPolicy p⟩
      ⟨agent, o.withPolicy p'⟩ where
  agent_eq := rfl
  topK_eq := rfl
  transitions := Or.inl rfl
  turns := Or.inl rfl
  sent := fun _ => trivial
  carried := by
    intro t t' h
    rw [SameMessages, Transcript.messages_afterRequest, Transcript.messages_afterRequest, h]
  pushed := by
    intro t t' m h
    rw [SameMessages, Transcript.messages_push, Transcript.messages_push, h]
  lastReply?_eq := by
    intro t t' h
    rw [Transcript.lastReply?, h, Transcript.lastReply?]

/-- The policy only affects what requests carry.  If the answers do not depend on that, two
runs under different policies consist of the same exchanges otherwise, append the same
messages, end in the same state with the same counts, and come to the same result. -/
theorem policy_only_affects_contexts (agent : Agent) (o : Options) (p p' : Policy)
    {alike : τ -> τ -> Prop} {answer : Dialogue.Answerer τ} {t : τ}
    (hanswers : Answers (fun _ _ => True) alike answer answer) (ht : alike t t) :
    ((run ⟨agent, o.withPolicy p⟩).course answer t).map Exchange.bare =
        ((run ⟨agent, o.withPolicy p'⟩).course answer t).map Exchange.bare ∧
      ((run ⟨agent, o.withPolicy p⟩).play answer t).2.1.bare =
        ((run ⟨agent, o.withPolicy p'⟩).play answer t).2.1.bare ∧
      ((run ⟨agent, o.withPolicy p⟩).play answer t).2.2 =
        ((run ⟨agent, o.withPolicy p'⟩).play answer t).2.2 := by
  rcases (twins_of_policies.run rfl).along hanswers ht with
    ⟨front, back, hcourse, hfront, hend⟩
  rcases hend with ⟨_, _, hstops⟩ | ⟨rfl, _, hrunner, hresult⟩
  · exact False.elim hstops
  · refine ⟨?_, hrunner.bare_eq, hresult⟩
    rw [hcourse, List.append_nil, ← List.forall₂_eq_eq_eq, List.forall₂_map_left_iff,
      List.forall₂_map_right_iff]
    exact hfront.imp fun x x' h => bare_eq_of_alike h

end

theorem answers_scripted {hits : Except ServiceError (List Snippet)} :
    Answers (fun _ _ => True) Eq (Dialogue.scripted hits) (Dialogue.scripted hits) where
  asked := by
    rintro t _ q rfl
    exact ⟨rfl, rfl⟩
  requested := by
    rintro t _ model context context' rfl _
    exact ⟨rfl, rfl⟩

def contexts (c : Course Runner) : List (List Message) :=
  c.filterMap fun x =>
    match x.query with
    | .complete _ context => some context
    | _ => none

theorem waiter_pruned :
    [Pruning.Trigger.never, .always].map (fun trigger =>
        (contexts ((run ⟨waiter, { pruning := { trigger := trigger } }⟩).course
          (Dialogue.scripted (.ok [])) ["no", "no", "done"])).map (·.map Message.text)) = [
        [["Is it ready?"], ["Is it ready?", "no", "And now?"],
          ["Is it ready?", "no", "And now?", "no", "And now?"]],
        [["Is it ready?"], ["Is it ready?", "no", "And now?"],
          ["Is it ready?", "no", "no", "And now?"]]] ∧
      ((run ⟨waiter, { pruning := { trigger := .never } }⟩).play (Dialogue.scripted (.ok []))
          ["no", "no", "done"]).2.1.bare =
        ((run ⟨waiter, { pruning := { trigger := .always } }⟩).play (Dialogue.scripted (.ok []))
          ["no", "no", "done"]).2.1.bare :=
  ⟨by decide +kernel, (policy_only_affects_contexts waiter {} { trigger := .never }
    { trigger := .always } answers_scripted rfl).right.left⟩

end Runner
end Colloquy
