import Colloquy.Proofs.Dialogue.Law
import Colloquy.Run.Runner

/-!
# Rules of a run

What each part of a run needs in order to keep a law.  The parts that run lists of
actions are treated once, for any property of courses that the steps of a list keep.
-/

namespace Colloquy

open Workflow (Action Agent Clause Conditions State)

def Workflow.Action.template? : Action -> Option Template
  | .goto _ => none
  | .message t _ _ _ => some t
  | .systemMessage t => some t
  | .finish => none

/-- The question goes to a tool of the model: a search, a script or the numbering. -/
def Query.isTool : Query -> Bool
  | complete _ _ => false
  | search _ _ => true
  | execute _ => true
  | number _ => true
  | tell _ => false

namespace Exchange

def told (s : σ) (event : Event) : Exchange σ :=
  ⟨s, .tell event, ()⟩

def failure? : Exchange σ -> Option ServiceError
  | ⟨_, .complete _ _, .error e⟩ => some e
  | ⟨_, .search _ _, .error e⟩ => some e
  | ⟨_, .execute _, .error e⟩ => some e
  | _ => none

end Exchange

/-- The message that stands in a transcript for a reply. -/
def Message.asReply (m : Message) : Message :=
  { m with role := .assistant }

namespace Runner

/-!
# States of a runner

The rules below name the runner that each stage of a visit leaves.
-/

def awaiting (w : Setting) (r : Runner) : Runner :=
  { r with
    turns := r.turns + 1
    transcript := Transcript.afterRequest w.options.pruning r.transcript
    phase := .awaitingCompletion }

def replied (w : Setting) (r : Runner) : Runner :=
  { r.awaiting w with phase := .evaluating }

def answered (w : Setting) (reply : Message) (r : Runner) : Runner :=
  { r.replied w with
    transcript := (r.replied w).transcript.push reply.asReply
    unanswered := false }

def asked (w : Setting) (s : State) (r : Runner) (answer : Except ServiceError Message) :
    Exchange Runner :=
  ⟨r.awaiting w, .complete s.model (Transcript.context w.options.pruning r.transcript), answer⟩

def judges (r : Runner) (clause : Clause) : Bool :=
  match Transcript.lastReply? r.transcript with
  | some reply => clause.predicate.holds reply.text
  | none => false

def coming (index : Nat) (r : Runner) : Runner :=
  { r with transitions := r.transitions + 1, state := index }

def beginning (r : Runner) : Runner :=
  { r with turnOwed := !r.replyReady, replyReady := false, phase := .evaluating }

def appending (m : Message) (r : Runner) : Runner :=
  { r with transcript := r.transcript.push m, unanswered := true }

end Runner

namespace Law

open Runner

variable {l : Law Runner RunError} {c : Course Runner} {r : Runner} {w : Setting} {state : State}

@[simp] theorem holds_append {m : Message} {post : Course Runner -> Runner -> Unit -> Prop} :
    l.Holds c r (append m) post <->
      l.asks c r (.tell (.appended m)) ∧
        post (c ++ [.told r (.appended m)]) (r.appending m) () := by
  rw [append, holds_bind, holds_tell]
  rfl

theorem holds_request_iff {post : Course Runner -> Runner -> Unit -> Prop} :
    l.Holds c r (request w state) post <->
      if w.options.maxTurns < r.turns + 1 then
        l.fails c { r with turns := r.turns + 1 } (.tooManyTurns w.agent.name w.options.maxTurns)
      else
        l.asks c (r.awaiting w)
          (.complete state.model (Transcript.context w.options.pruning r.transcript)) ∧
        (forall reply : Message,
          l.asks (c ++ [asked w state r (.ok reply)]) (r.replied w)
            (.tell (.appended reply.asReply)) ∧
          post (c ++ [asked w state r (.ok reply)] ++
            [.told (r.replied w) (.appended reply.asReply)]) (r.answered w reply) ()) ∧
        forall e, l.fails (c ++ [asked w state r (.error e)]) (r.awaiting w) (.service e) := by
  rw [request, holds_bind, holds_modify, holds_bind, holds_get]
  split
  · exact Iff.rfl
  · rw [holds_bind, holds_modify, holds_bind, holds_complete]
    refine and_congr Iff.rfl (and_congr (forall_congr' fun reply => ?_) Iff.rfl)
    rw [holds_bind, holds_modify, holds_bind, holds_append]
    exact Iff.rfl

theorem holds_request {post : Course Runner -> Runner -> Unit -> Prop}
    (hlimit : w.options.maxTurns < r.turns + 1 ->
      l.fails c { r with turns := r.turns + 1 } (.tooManyTurns w.agent.name w.options.maxTurns))
    (hasked : l.asks c (r.awaiting w)
      (.complete state.model (Transcript.context w.options.pruning r.transcript)))
    (hfailed : forall e, l.fails (c ++ [asked w state r (.error e)]) (r.awaiting w) (.service e))
    (hreplied : forall reply : Message,
      l.asks (c ++ [asked w state r (.ok reply)]) (r.replied w) (.tell (.appended reply.asReply)) ∧
        post (c ++ [asked w state r (.ok reply)] ++ [.told (r.replied w) (.appended reply.asReply)])
          (r.answered w reply) ()) :
    l.Holds c r (request w state) post := by
  rw [holds_request_iff]
  split
  · rename_i hover
    exact hlimit hover
  · exact ⟨hasked, hreplied, hfailed⟩

theorem holds_observe {post : Course Runner -> Runner -> Unit -> Prop} :
    l.Holds c r (observe w state) post <->
      if r.turnOwed = true then
        if (r.unanswered || (Transcript.lastReply? r.transcript).isNone) = true then
          l.Holds c { r with turnOwed := false } (request w state) post
        else post c { r with turnOwed := false } ()
      else post c r () := by
  rw [observe, holds_bind, holds_get]
  split
  · rw [holds_bind, holds_modify]
    split
    · exact Iff.rfl
    · exact holds_pure
  · exact holds_pure

/-!
# Lists of actions

A list of actions asks tools, settles the owed request, appends messages and at last
may hand control on.
-/

/-- What rendering a template does keeps the law and the property `p`. -/
structure Rendering (l : Law Runner RunError) (w : Setting) (state : State)
    (p : Course Runner -> Runner -> Prop) : Prop where
  tool : forall {c : Course Runner} {r : Runner} (q : Query), p c r -> q.isTool = true ->
    l.asks c r q ∧ forall answer, p (c ++ [⟨r, q, answer⟩]) r
  toolFails : forall {c : Course Runner} {r : Runner} (x : Exchange Runner) (e : ServiceError),
    p c r -> x.query.isTool = true -> x.failure? = some e -> l.fails (c ++ [x]) r (.service e)
  observed : forall {c : Course Runner} {r : Runner}, p c r ->
    l.Holds c r (observe w state) fun c r _ => p c r

variable {p : Course Runner -> Runner -> Prop}

theorem Rendering.call (h : l.Rendering w state p) {topK : Nat} {reply : String} {f : Function}
    (hp : p c r) :
    l.Holds c r (Template.Renderer.call ⟨.service, topK⟩ reply f) fun c r _ => p c r := by
  unfold Template.Renderer.call
  split
  · rename_i body _
    cases f with
    | python =>
        have htool := h.tool (.execute body) hp rfl
        refine holds_bind.mpr (holds_execute.mpr ⟨htool.left, ?_, ?_⟩)
        · intro outcome
          exact htool.right (.ok outcome)
        · intro e
          exact h.toolFails _ e hp rfl rfl
    | rtfm =>
        have htool := h.tool (.search body topK) hp rfl
        refine holds_bind.mpr (holds_search.mpr ⟨htool.left, ?_, ?_⟩)
        · intro snippets
          have hhits := htool.right (.ok snippets)
          split
          · exact hhits
          · exact holds_bind.mpr (holds_number.mpr (h.tool (.number snippets) hhits rfl))
        · intro e
          exact h.toolFails _ e hp rfl rfl
  · exact hp

theorem Rendering.segments (h : l.Rendering w state p) {topK : Nat} {reply : String}
    {segments : List Segment} (hp : p c r) :
    l.Holds c r (Template.Renderer.segments ⟨.service, topK⟩ reply segments)
      fun c r _ => p c r := by
  induction segments generalizing c r with
  | nil => exact hp
  | cons s rest ih =>
      have hfirst : l.Holds c r (Template.Renderer.segment ⟨.service, topK⟩ reply s)
          fun c r _ => p c r := by
        cases s with
        | text t => exact hp
        | call f => exact h.call hp
      refine holds_bind.mpr (hfirst.mono ?_)
      intro c r _ hp
      exact holds_bind.mpr ((ih hp).mono fun _ _ _ hp => hp)

theorem Rendering.render (h : l.Rendering w state p) {t : Template} (hp : p c r) :
    l.Holds c r (Runner.render w state t) fun c r _ => p c r := by
  have hread : forall {c : Course Runner} {r : Runner}, p c r -> l.Holds c r (do
      let r <- Act.get
      let reply := (Transcript.lastReply? r.transcript).map Message.text
      Template.Renderer.render ⟨.service, w.options.topK⟩ t reply) fun c r _ => p c r := by
    intro c r hp
    exact holds_bind.mpr (h.segments hp)
  unfold Runner.render
  split
  · exact holds_bind.mpr ((h.observed hp).mono fun _ _ _ hp => hread hp)
  · exact hread hp

/-- Where a list of actions leaves control, and what holds then. -/
def Leaves (w : Setting) (p : Course Runner -> Runner -> Prop) (as : List Action)
    (c : Course Runner) (r : Runner) : Flow -> Prop
  | .stay => p c r ∧ forall a, a ∈ as -> a.isTransfer = false
  | .finish => p c r
  | .goto index => exists target front, Action.goto target ∈ as ∧
      w.agent.stateIndex? target = some index ∧ c = front ++ [.told r (.went target)] ∧ p front r

theorem Leaves.cons {a : Action} {as : List Action} {flow : Flow} (ha : a.isTransfer = false)
    (h : Leaves w p as c r flow) : Leaves w p (a :: as) c r flow := by
  cases flow with
  | stay => exact ⟨h.left, List.forall_mem_cons.mpr ⟨ha, h.right⟩⟩
  | finish => exact h
  | goto index =>
      rcases h with ⟨target, front, hmem, h⟩
      exact ⟨target, front, List.mem_cons_of_mem a hmem, h⟩

/-- The induction over a list of actions: `p` holds until control is handed on, if rendering
leads from it to `q`, and appending the rendered text back to it. -/
theorem holds_actions {as : List Action} {q : Course Runner -> Runner -> String -> Prop}
    (hrendered : forall {c : Course Runner} {r : Runner} (t : Template), p c r ->
      (exists a, a ∈ as ∧ a.template? = some t) -> l.Holds c r (Runner.render w state t) q)
    (happended : forall {c : Course Runner} {r : Runner} (m : Message), q c r m.text ->
      l.asks c r (.tell (.appended m)) ∧ p (c ++ [.told r (.appended m)]) (r.appending m))
    (hwent : forall c r target, p c r -> Action.goto target ∈ as ->
      l.asks c r (.tell (.went target)))
    (hunknown : forall c r target, p c r -> Action.goto target ∈ as ->
      w.agent.stateIndex? target = none -> l.fails c r (.unknownState target))
    (hp : p c r) : l.Holds c r (Runner.execute w state as) (Leaves w p as) := by
  induction as generalizing c r with
  | nil => exact ⟨hp, fun a ha => (List.not_mem_nil ha).elim⟩
  | cons a rest ih =>
      -- A message is rendered and appended before the rest of the list runs.
      have hmessage : forall (t : Template) (m : String -> Message), a.template? = some t ->
          a.isTransfer = false -> (forall text, (m text).text = text) ->
          l.Holds c r (do
            let text <- Runner.render w state t
            Runner.append (m text)
            Runner.execute w state rest) (Leaves w p (a :: rest)) := by
        intro t m ht ha hm
        refine holds_bind.mpr ((hrendered t hp ⟨a, List.mem_cons_self, ht⟩).mono ?_)
        intro c r text htext
        have hwritten := happended (m text) ((hm text).symm ▸ htext)
        refine holds_bind.mpr (holds_append.mpr ⟨hwritten.left, ?_⟩)
        refine (ih ?_ ?_ ?_ hwritten.right).mono fun c r flow hflow => hflow.cons ha
        · rintro c r t hp ⟨b, hb, ht⟩
          exact hrendered t hp ⟨b, List.mem_cons_of_mem a hb, ht⟩
        · intro c r target hp hmem
          exact hwent c r target hp (List.mem_cons_of_mem a hmem)
        · intro c r target hp hmem
          exact hunknown c r target hp (List.mem_cons_of_mem a hmem)
      cases a with
      | goto target =>
          unfold Runner.execute
          split
          · rename_i index hindex
            refine holds_bind.mpr (holds_tell.mpr ⟨hwent c r target hp List.mem_cons_self, ?_⟩)
            exact ⟨target, c, List.mem_cons_self, hindex, rfl, hp⟩
          · rename_i hnone
            exact hunknown c r target hp List.mem_cons_self hnone
      | message t role importance ttl => exact hmessage t _ rfl rfl fun _ => rfl
      | systemMessage t => exact hmessage t _ rfl rfl fun _ => rfl
      | finish => exact hp

structure Steady (l : Law Runner RunError) (w : Setting) (state : State)
    (p : Course Runner -> Runner -> Prop) : Prop where
  tool : forall {c : Course Runner} {r : Runner} (q : Query), p c r -> q.isTool = true ->
    l.asks c r q ∧ forall answer, p (c ++ [⟨r, q, answer⟩]) r
  toolFails : forall {c : Course Runner} {r : Runner} (x : Exchange Runner) (e : ServiceError),
    p c r -> x.query.isTool = true -> x.failure? = some e -> l.fails (c ++ [x]) r (.service e)
  appended : forall {c : Course Runner} {r : Runner} (m : Message), p c r ->
    l.asks c r (.tell (.appended m)) ∧ p (c ++ [.told r (.appended m)]) (r.appending m)
  observed : forall {c : Course Runner} {r : Runner}, p c r ->
    l.Holds c r (observe w state) fun c r _ => p c r

theorem Steady.rendering (h : l.Steady w state p) : l.Rendering w state p where
  tool := h.tool
  toolFails := h.toolFails
  observed := h.observed

theorem Steady.execute (h : l.Steady w state p) {as : List Action}
    (hwent : forall c r target, p c r -> Action.goto target ∈ as ->
      l.asks c r (.tell (.went target)))
    (hunknown : forall c r target, p c r -> Action.goto target ∈ as ->
      w.agent.stateIndex? target = none -> l.fails c r (.unknownState target))
    (hp : p c r) : l.Holds c r (Runner.execute w state as) (Leaves w p as) :=
  holds_actions (fun _ hp _ => h.rendering.render hp) h.appended hwent hunknown hp

/-!
# Visits

The rules for a visit follow its stages: clauses are tried one by one, a branch is chosen, its
actions run, and a visit that stays asks for a reply.
-/

theorem holds_selectFrom_nil {fallback : List Action} {i : Nat}
    {post : Course Runner -> Runner -> List Action -> Prop} :
    l.Holds c r (selectFrom w state fallback i []) post <->
      l.asks c r (.tell (.branched none)) ∧
        post (c ++ [.told r (.branched none)]) r fallback := by
  rw [selectFrom, holds_bind, holds_tell]
  exact Iff.rfl

theorem holds_selectFrom_cons {fallback : List Action} {i : Nat} {clause : Clause}
    {rest : List Clause} {post : Course Runner -> Runner -> List Action -> Prop} :
    l.Holds c r (selectFrom w state fallback i (clause :: rest)) post <->
      l.Holds c r (observe w state) fun c r _ =>
        l.asks c r (.tell (.judged i (r.judges clause))) ∧
          if r.judges clause = true then
            l.asks (c ++ [.told r (.judged i true)]) r (.tell (.branched (some i))) ∧
              post (c ++ [.told r (.judged i true)] ++ [.told r (.branched (some i))]) r
                clause.actions
          else
            l.Holds (c ++ [.told r (.judged i false)]) r
              (selectFrom w state fallback (i + 1) rest) post := by
  rw [selectFrom, holds_bind]
  apply holds_congr
  intro c r _
  rw [holds_bind, holds_get, holds_bind, holds_tell]
  show l.asks c r (.tell (.judged i (r.judges clause))) ∧
      l.Holds (c ++ [.told r (.judged i (r.judges clause))]) r
        (if r.judges clause = true then do
          Act.tell (.branched (some i))
          pure clause.actions
        else selectFrom w state fallback (i + 1) rest) post <-> _
  cases r.judges clause with
  | true =>
      rw [if_pos rfl, if_pos rfl, holds_bind, holds_tell]
      exact Iff.rfl
  | false => exact Iff.rfl

/-- The induction over the clauses of a state: `p` holds until a branch is chosen, and `q`
holds of the branch then. -/
theorem holds_selectFrom
    (hobserved : forall {c : Course Runner} {r : Runner}, p c r ->
      l.Holds c r (observe w state) fun c r _ => p c r)
    (branch : Option Nat -> List Action -> Prop)
    {q : Course Runner -> Runner -> List Action -> Prop}
    (hjudged : forall c r i holds, p c r ->
      l.asks c r (.tell (.judged i holds)) ∧ p (c ++ [.told r (.judged i holds)]) r)
    (hbranched : forall c r b as, p c r -> branch b as ->
      l.asks c r (.tell (.branched b)) ∧ q (c ++ [.told r (.branched b)]) r as)
    {fallback : List Action} {clauses : List Clause} {i : Nat} (hfallback : branch none fallback)
    (hclauses : forall j clause, clauses[j]? = some clause -> branch (some (i + j)) clause.actions)
    (hp : p c r) : l.Holds c r (selectFrom w state fallback i clauses) q := by
  induction clauses generalizing c r i with
  | nil =>
      rw [holds_selectFrom_nil]
      exact hbranched c r none fallback hp hfallback
  | cons clause rest ih =>
      rw [holds_selectFrom_cons]
      refine (hobserved hp).mono ?_
      intro c r _ hp
      refine ⟨(hjudged c r i (r.judges clause) hp).left, ?_⟩
      split
      · exact hbranched _ r (some i) clause.actions (hjudged c r i true hp).right
          (hclauses 0 clause rfl)
      · refine ih ?_ (hjudged c r i false hp).right
        intro j later hlater
        rw [Nat.add_right_comm, Nat.add_assoc]
        exact hclauses (j + 1) later hlater

theorem Rendering.selectFrom (h : l.Rendering w state p)
    (branch : Option Nat -> List Action -> Prop)
    {q : Course Runner -> Runner -> List Action -> Prop}
    (hjudged : forall c r i holds, p c r ->
      l.asks c r (.tell (.judged i holds)) ∧ p (c ++ [.told r (.judged i holds)]) r)
    (hbranched : forall c r b as, p c r -> branch b as ->
      l.asks c r (.tell (.branched b)) ∧ q (c ++ [.told r (.branched b)]) r as)
    {fallback : List Action} {clauses : List Clause} {i : Nat} (hfallback : branch none fallback)
    (hclauses : forall j clause, clauses[j]? = some clause -> branch (some (i + j)) clause.actions)
    (hp : p c r) : l.Holds c r (selectFrom w state fallback i clauses) q :=
  holds_selectFrom h.observed branch hjudged hbranched hfallback hclauses hp

theorem Steady.selectFrom (h : l.Steady w state p)
    (hjudged : forall c r i holds, p c r ->
      l.asks c r (.tell (.judged i holds)) ∧ p (c ++ [.told r (.judged i holds)]) r)
    (hbranched : forall c r b, p c r ->
      l.asks c r (.tell (.branched b)) ∧ p (c ++ [.told r (.branched b)]) r)
    {fallback : List Action} {clauses : List Clause} {i : Nat} (hp : p c r) :
    l.Holds c r (selectFrom w state fallback i clauses) fun c r as =>
      p c r ∧ as ∈ fallback :: clauses.map Clause.actions := by
  refine h.rendering.selectFrom (fun _ as => as ∈ fallback :: clauses.map Clause.actions)
    hjudged ?_ List.mem_cons_self ?_ hp
  · intro c r b as hp has
    exact ⟨(hbranched c r b hp).left, (hbranched c r b hp).right, has⟩
  · intro j clause hclause
    exact List.mem_cons_of_mem _ (List.mem_map_of_mem (List.mem_of_getElem? hclause))

theorem holds_evaluate {conditions : Conditions} (h : state.conditions = some conditions)
    {post : Course Runner -> Runner -> Flow -> Prop} :
    l.Holds c r (evaluate w state) post <->
      l.Holds c r.beginning (selectFrom w state conditions.fallback 0 conditions.clauses)
        fun c r as =>
          l.Holds c r (Runner.execute w state as) fun c r flow =>
            if flow = .stay then
              l.Holds c { r with turnOwed := false } (request w state) fun c r _ =>
                post c { r with replyReady := true } .stay
            else post c r flow := by
  unfold evaluate
  rw [h]
  refine Iff.trans (holds_bind.trans holds_bind) (holds_congr ?_)
  intro c r as
  refine holds_bind.trans (holds_congr ?_)
  intro c r flow
  cases flow with
  | stay => exact holds_bind.trans (holds_bind.trans holds_bind)
  | finish => exact Iff.rfl
  | goto next => exact Iff.rfl

theorem holds_visit_entering {index : Nat} {post : Course Runner -> Runner -> Flow -> Prop} :
    l.Holds c r (visit w index true state) post <->
      l.asks c r (.tell (.entered index)) ∧
        l.Holds (c ++ [.told r (.entered index)]) { r with phase := .entry }
          (Runner.execute w state state.entryActions) fun c r flow =>
            if flow = .stay then l.Holds c r (evaluate w state) post else post c r flow := by
  rw [visit, if_pos rfl, holds_bind, holds_tell]
  refine and_congr Iff.rfl (holds_bind.trans (holds_bind.trans (holds_congr ?_)))
  intro c r flow
  cases flow with
  | stay => exact Iff.rfl
  | finish => exact Iff.rfl
  | goto next => exact Iff.rfl

theorem holds_drive_zero {index : Nat} {entering : Bool}
    {post : Course Runner -> Runner -> Unit -> Prop} :
    l.Holds c r (drive w 0 index entering) post <->
      l.fails c { r with transitions := r.transitions + 1 }
        (.tooManyTransitions w.agent.name w.options.maxTransitions) :=
  Iff.rfl

theorem holds_drive_succ {left index : Nat} {entering : Bool}
    (h : w.agent.states[index]? = some state) {post : Course Runner -> Runner -> Unit -> Prop} :
    l.Holds c r (drive w (left + 1) index entering) post <->
      l.Holds c (r.coming index) (visit w index entering state) fun c r flow =>
        match flow with
        | .goto next => l.Holds c r (drive w left next true) post
        | .finish => post c r ()
        | .stay => l.Holds c r (drive w left index false) post := by
  rw [drive, holds_bind, holds_modify, h, holds_bind]
  apply holds_congr
  intro c r flow
  cases flow with
  | stay => exact Iff.rfl
  | finish => exact Iff.rfl
  | goto next => exact Iff.rfl

/-!
# Whole runs

A property that tells of the transcript alone, and not of where in a run the agent is,
holds throughout the run if messages, rendering and requests keep it.
-/

theorem keeps_run {post : Course Runner -> Runner -> Unit -> Prop}
    {ends : Course Runner -> Runner -> Except RunError Unit -> Prop}
    (h : l.Holds [] {} (drive w w.options.maxTransitions w.agent.entryIndex true) post)
    (hdone : forall c r, post c r () -> ends c { r with phase := .terminated } (.ok ()))
    (hfailed : forall c r e, l.fails c r e -> ends c { r with phase := .failed } (.error e)) :
    (Runner.run w).Keeps l.asks ends [] := by
  -- A run is a series of visits, after which only the phase changes.
  refine Dialogue.keeps_bind.mpr (Dialogue.Keeps.mono h ?_)
  intro c r result hresult
  cases result with
  | ok => exact hdone c r hresult
  | error e => exact hfailed c r e hresult

/-- Everything that a run does keeps the law and the property `p`; what rendering does is
taken as a whole, and brings about `q` until the rendered text is appended. -/
structure Enduring (l : Law Runner RunError) (w : Setting) (p : Course Runner -> Runner -> Prop)
    (q : Course Runner -> Runner -> String -> Prop) : Prop where
  told : forall {c : Course Runner} {r : Runner} (event : Event), p c r ->
    (forall m, event ≠ .appended m) ->
    l.asks c r (.tell event) ∧ p (c ++ [.told r event]) r
  rendered : forall {c : Course Runner} {r : Runner} (state : State) (t : Template), p c r ->
    l.Holds c r (Runner.render w state t) q
  appended : forall {c : Course Runner} {r : Runner} (m : Message), q c r m.text ->
    l.asks c r (.tell (.appended m)) ∧ p (c ++ [.told r (.appended m)]) (r.appending m)
  requested : forall {c : Course Runner} {r : Runner} (state : State), p c r ->
    l.Holds c r (request w state) fun c r _ => p c r
  moved : forall {c : Course Runner} {r r' : Runner}, p c r -> r'.transcript = r.transcript ->
    r'.unanswered = r.unanswered -> p c r'
  stops : forall {c : Course Runner} {r : Runner} (e : RunError), p c r ->
    (forall s, e ≠ .service s) -> l.fails c r e

theorem holds_observe_of
    (hrequested : forall {c : Course Runner} {r : Runner}, p c r ->
      l.Holds c r (request w state) fun c r _ => p c r)
    (hmoved : forall {c : Course Runner} {r r' : Runner}, p c r ->
      r'.transcript = r.transcript -> r'.unanswered = r.unanswered -> p c r')
    (hp : p c r) : l.Holds c r (observe w state) fun c r _ => p c r := by
  rw [holds_observe]
  split
  · split
    · exact hrequested (hmoved hp rfl rfl)
    · exact hmoved hp rfl rfl
  · exact hp

namespace Enduring

variable {q : Course Runner -> Runner -> String -> Prop}

theorem execute (h : l.Enduring w p q) {as : List Action} (hp : p c r) :
    l.Holds c r (Runner.execute w state as) fun c r _ => p c r := by
  refine (holds_actions (fun t hp _ => h.rendered state t hp) h.appended ?_ ?_ hp).mono ?_
  · intro c r target hp _
    exact (h.told (.went target) hp (by simp)).left
  · intro c r target hp _ _
    exact h.stops _ hp (by simp)
  · intro c r flow hflow
    cases flow with
    | stay => exact hflow.left
    | finish => exact hflow
    | goto next =>
        rcases hflow with ⟨target, front, _, _, rfl, hp⟩
        exact (h.told (.went target) hp (by simp)).right

theorem evaluate (h : l.Enduring w p q) (hp : p c r) :
    l.Holds c r (Runner.evaluate w state) fun c r _ => p c r := by
  cases hconditions : state.conditions with
  | none =>
      unfold Runner.evaluate
      rw [hconditions]
      exact h.stops _ hp (by simp)
  | some conditions =>
      have hbegin : p c r.beginning := h.moved hp rfl rfl
      have hobserved : forall {c : Course Runner} {r : Runner}, p c r ->
          l.Holds c r (observe w state) fun c r _ => p c r :=
        fun hp => holds_observe_of (h.requested state) h.moved hp
      rw [holds_evaluate hconditions]
      refine (holds_selectFrom hobserved (fun _ _ => True) (q := fun c r _ => p c r) ?_ ?_ trivial
        (fun _ _ _ => trivial) hbegin).mono ?_
      · intro c r i holds hp
        exact h.told _ hp (by simp)
      · intro c r b as hp _
        exact h.told _ hp (by simp)
      · intro c r as hp
        refine (h.execute hp).mono ?_
        intro c r flow hp
        split
        · have hsettled : p c { r with turnOwed := false } := h.moved hp rfl rfl
          refine (h.requested state hsettled).mono ?_
          intro c r _ hp
          exact h.moved hp rfl rfl
        · exact hp

theorem visit (h : l.Enduring w p q) {index : Nat} {entering : Bool} (hp : p c r) :
    l.Holds c r (Runner.visit w index entering state) fun c r _ => p c r := by
  cases entering with
  | true =>
      rw [holds_visit_entering]
      have hentered := h.told (.entered index) hp (by simp)
      have hentry : p (c ++ [.told r (.entered index)]) { r with phase := .entry } :=
        h.moved hentered.right rfl rfl
      refine ⟨hentered.left, (h.execute hentry).mono ?_⟩
      intro c r flow hp
      split
      · exact h.evaluate hp
      · exact hp
  | false => exact h.evaluate hp

theorem drive (h : l.Enduring w p q) {left index : Nat} {entering : Bool} (hp : p c r) :
    l.Holds c r (Runner.drive w left index entering) fun c r _ => p c r := by
  induction left generalizing index entering c r with
  | zero => exact h.stops _ (h.moved hp rfl rfl) (by simp)
  | succ left ih =>
      have hcome : p c (r.coming index) := h.moved hp rfl rfl
      cases hstate : w.agent.states[index]? with
      | none =>
          rw [Runner.drive, holds_bind, holds_modify, hstate]
          exact h.stops _ hcome (by simp)
      | some state =>
          rw [holds_drive_succ hstate]
          refine (h.visit hcome).mono ?_
          intro c r flow hp
          cases flow with
          | stay => exact ih hp
          | finish => exact hp
          | goto next => exact ih hp

end Enduring

structure Lasting (l : Law Runner RunError) (w : Setting)
    (p : Course Runner -> Runner -> Prop) : Prop where
  told : forall {c : Course Runner} {r : Runner} (event : Event), p c r ->
    (forall m, event ≠ .appended m) ->
    l.asks c r (.tell event) ∧ p (c ++ [.told r event]) r
  tool : forall {c : Course Runner} {r : Runner} (q : Query), p c r -> q.isTool = true ->
    l.asks c r q ∧ forall answer, p (c ++ [⟨r, q, answer⟩]) r
  toolFails : forall {c : Course Runner} {r : Runner} (x : Exchange Runner) (e : ServiceError),
    p c r -> x.query.isTool = true -> x.failure? = some e -> l.fails (c ++ [x]) r (.service e)
  appended : forall {c : Course Runner} {r : Runner} (m : Message), p c r ->
    l.asks c r (.tell (.appended m)) ∧ p (c ++ [.told r (.appended m)]) (r.appending m)
  requested : forall {c : Course Runner} {r : Runner} (state : State), p c r ->
    l.Holds c r (request w state) fun c r _ => p c r
  moved : forall {c : Course Runner} {r r' : Runner}, p c r -> r'.transcript = r.transcript ->
    r'.unanswered = r.unanswered -> p c r'
  stops : forall {c : Course Runner} {r : Runner} (e : RunError), p c r ->
    (forall s, e ≠ .service s) -> l.fails c r e

theorem Lasting.rendering (h : l.Lasting w p) : l.Rendering w state p where
  tool := h.tool
  toolFails := h.toolFails
  observed := fun hp => holds_observe_of (h.requested state) h.moved hp

theorem Lasting.enduring (h : l.Lasting w p) : l.Enduring w p fun c r _ => p c r where
  told := h.told
  rendered := fun _ _ hp => h.rendering.render hp
  appended := h.appended
  requested := h.requested
  moved := h.moved
  stops := h.stops

end Law
end Colloquy
