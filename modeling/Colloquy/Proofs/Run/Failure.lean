import Colloquy.Proofs.Run.Ledger
import Colloquy.Proofs.Run.Safety

/-!
# Failing services

The failure of a service is the last thing in the course of a run and is what the run fails
with.  Replies without a block, searches without a hit and scripts that fail are no failures:
they become text.
-/

namespace Colloquy

open Workflow (Action Agent Clause Conditions Program State)

theorem Exchange.appended?_of_failure {x : Exchange σ} {e : ServiceError}
    (h : x.failure? = some e) : x.appended? = none := by
  rcases x with ⟨s, q, answer⟩
  cases q with
  | complete => rfl
  | search => rfl
  | execute => rfl
  | number => rfl
  | tell => cases h

namespace Dialogue

/-- The failure of a service ends the dialogue at once, as it stands, and is its result; any
other failure is as `own` says. -/
def Heeds (wrap : ServiceError -> ε) (own : ε -> Prop) : Dialogue σ (Except ε α) -> Prop
  | done _ (.ok _) => True
  | done _ (.error e) => own e
  | ask s q next => forall answer,
      match Exchange.failure? ⟨s, q, answer⟩ with
      | some e => next answer = done s (.error (wrap e))
      | none => Heeds wrap own (next answer)

variable {wrap : ServiceError -> ε} {own : ε -> Prop}

theorem Heeds.failure {d rest : Dialogue σ (Except ε α)} {front back : Course σ} {x : Exchange σ}
    {e : ServiceError} (h : d.Heeds wrap own) (hafter : d.After (front ++ x :: back) rest)
    (hx : x.failure? = some e) : back = [] ∧ rest = .done x.state (.error (wrap e)) := by
  induction front generalizing d with
  | nil =>
      cases hafter with
      | answered answer hnext =>
          have hstop := h answer
          rw [hx] at hstop
          have hstop : _ = _ := hstop
          rw [hstop] at hnext
          cases hnext with
          | start => exact ⟨rfl, rfl⟩
  | cons y front ih =>
      cases hafter with
      | answered answer hnext =>
          have hgo := h answer
          split at hgo
          · rw [hgo] at hnext
            cases front with
            | nil => cases hnext
            | cons => cases hnext
          · exact ih hgo hnext

theorem Heeds.own_of_ends {d : Dialogue σ (Except ε α)} {c : Course σ} {s : σ} {e : ε}
    (h : d.Heeds wrap own) (hends : d.Ends c s (.error e))
    (hquiet : forall x, x ∈ c -> x.failure? = none) : own e := by
  induction d generalizing c with
  | done s' result =>
      cases hends with
      | start => exact h
  | ask s' q next ih =>
      cases hends with
      | answered answer hnext =>
          have hgo := h answer
          rw [hquiet _ List.mem_cons_self] at hgo
          exact ih answer hgo hnext fun x hx => hquiet x (List.mem_cons_of_mem _ hx)

end Dialogue

def Act.Heeds (wrap : ServiceError -> ε) (own : ε -> Prop) (x : Act σ ε α) : Prop :=
  forall s, (x s).Heeds wrap own

namespace Act

variable {wrap : ServiceError -> ε} {own : ε -> Prop}

theorem heeds_pure {a : α} : Heeds wrap own (pure a : Act σ ε α) :=
  fun _ => trivial

theorem heeds_fail {e : ε} (h : own e) : Heeds wrap own (fail e : Act σ ε α) :=
  fun _ => h

theorem heeds_get : Heeds wrap own (get : Act σ ε σ) :=
  fun _ => trivial

theorem heeds_modify {f : σ -> σ} : Heeds wrap own (modify f : Act σ ε Unit) :=
  fun _ => trivial

theorem heeds_tell {event : Event} : Heeds wrap own (tell event : Act σ ε Unit) :=
  fun _ _ => trivial

theorem heeds_number {snippets : List Snippet} :
    Heeds wrap own (number snippets : Act σ ε Nat) :=
  fun _ _ => trivial

theorem Heeds.bind {x : Act σ ε α} {f : α -> Act σ ε β} (hx : Heeds wrap own x)
    (hf : forall a, Heeds wrap own (f a)) : Heeds wrap own (x >>= f) := by
  intro s
  have hd := hx s
  show ((x s).bind _).Heeds wrap own
  generalize x s = d at hd
  induction d with
  | done s result =>
      cases result with
      | ok a => exact hf a s
      | error e => exact hd
  | ask s q next ih =>
      intro answer
      have hgo := hd answer
      split at hgo
      · show (next answer).bind _ = _
        rw [hgo]
        rfl
      · exact ih answer hgo

theorem heeds_complete {model : Option String} {context : List Message} :
    Heeds wrap own (complete wrap model context : Act σ ε Message) := by
  intro s answer
  cases answer with
  | ok => trivial
  | error => rfl

theorem heeds_search {text : String} {limit : Nat} :
    Heeds wrap own (search wrap text limit : Act σ ε (List Snippet)) := by
  intro s answer
  cases answer with
  | ok => trivial
  | error => rfl

theorem heeds_execute {source : String} :
    Heeds wrap own (execute wrap source : Act σ ε Script.Outcome) := by
  intro s answer
  cases answer with
  | ok => trivial
  | error => rfl

end Act

/-!
# Rendering

No text and no answer makes a template fail: it fails only as a service does.
-/

namespace Template.Renderer

variable {r : Renderer ε} {own : ε -> Prop}

theorem heeds_call {reply : String} {f : Function} :
    Act.Heeds r.wrap own (r.call reply f : Act σ ε String) := by
  unfold call
  split
  · cases f with
    | python => exact Act.heeds_execute.bind fun _ => Act.heeds_pure
    | rtfm =>
        refine Act.heeds_search.bind fun snippets => ?_
        split
        · exact Act.heeds_pure
        · exact Act.heeds_number.bind fun _ => Act.heeds_pure
  · exact Act.heeds_pure

theorem heeds_segments {reply : String} {segments : List Segment} :
    Act.Heeds r.wrap own (r.segments reply segments : Act σ ε String) := by
  induction segments with
  | nil => exact Act.heeds_pure
  | cons s rest ih =>
      have hfirst : Act.Heeds r.wrap own (r.segment reply s : Act σ ε String) := by
        cases s with
        | text t => exact Act.heeds_pure
        | call f => exact heeds_call
      exact hfirst.bind fun _ => ih.bind fun _ => Act.heeds_pure

theorem render_ends_ok {t : Template} {reply : Option String} {s s' : σ} {c : Course σ}
    {result : Except ε String} (hends : (r.render t reply s).Ends c s' result)
    (hquiet : forall x, x ∈ c -> x.failure? = none) : exists text, result = .ok text := by
  cases result with
  | ok text => exact ⟨text, rfl⟩
  | error e =>
      have hheeds : (r.render t reply s).Heeds r.wrap (fun _ => False) := heeds_segments s
      exact (hheeds.own_of_ends hends hquiet).elim

end Template.Renderer

/-!
# Runs

No part of a run goes on after a service has failed, and none fails with the error of a service
otherwise.
-/

namespace Runner

open Course

def IsOwn (e : RunError) : Prop :=
  forall s, e ≠ .service s

section

variable {w : Setting} {state : State}

theorem heeds_append {m : Message} : Act.Heeds .service IsOwn (append m) :=
  Act.heeds_tell.bind fun _ => Act.heeds_modify

theorem heeds_request : Act.Heeds .service IsOwn (request w state) := by
  refine Act.heeds_modify.bind fun _ => Act.heeds_get.bind fun r => ?_
  split
  · exact Act.heeds_fail (by simp [IsOwn])
  · refine Act.heeds_modify.bind fun _ => Act.heeds_complete.bind fun reply => ?_
    exact Act.heeds_modify.bind fun _ => heeds_append.bind fun _ => Act.heeds_modify

theorem heeds_observe : Act.Heeds .service IsOwn (observe w state) := by
  refine Act.heeds_get.bind fun r => ?_
  split
  · refine Act.heeds_modify.bind fun _ => ?_
    split
    · exact heeds_request
    · exact Act.heeds_pure
  · exact Act.heeds_pure

theorem heeds_render {t : Template} : Act.Heeds .service IsOwn (render w state t) := by
  have hread : Act.Heeds .service IsOwn (do
      let r <- Act.get
      let reply := (Transcript.lastReply? r.transcript).map Message.text
      Template.Renderer.render ⟨.service, w.options.topK⟩ t reply : Step String) :=
    Act.heeds_get.bind fun _ =>
      Template.Renderer.heeds_segments (r := ⟨RunError.service, w.options.topK⟩)
  unfold render
  split
  · exact heeds_observe.bind fun _ => hread
  · exact hread

theorem heeds_execute {as : List Action} : Act.Heeds .service IsOwn (execute w state as) := by
  induction as with
  | nil => exact Act.heeds_pure
  | cons a rest ih =>
      cases a with
      | goto target =>
          unfold execute
          split
          · exact Act.heeds_tell.bind fun _ => Act.heeds_pure
          · exact Act.heeds_fail (by simp [IsOwn])
      | message t role importance ttl =>
          exact heeds_render.bind fun _ => heeds_append.bind fun _ => ih
      | systemMessage t => exact heeds_render.bind fun _ => heeds_append.bind fun _ => ih
      | finish => exact Act.heeds_pure

theorem heeds_selectFrom {fallback : List Action} {clauses : List Clause} {i : Nat} :
    Act.Heeds .service IsOwn (selectFrom w state fallback i clauses) := by
  induction clauses generalizing i with
  | nil => exact Act.heeds_tell.bind fun _ => Act.heeds_pure
  | cons clause rest ih =>
      refine heeds_observe.bind fun _ => Act.heeds_get.bind fun r => Act.heeds_tell.bind fun _ => ?_
      show Act.Heeds .service IsOwn (if r.judges clause = true then do
          Act.tell (.branched (some i))
          pure clause.actions
        else selectFrom w state fallback (i + 1) rest : Step (List Action))
      split
      · exact Act.heeds_tell.bind fun _ => Act.heeds_pure
      · exact ih

theorem heeds_evaluate : Act.Heeds .service IsOwn (evaluate w state) := by
  unfold evaluate
  split
  · exact Act.heeds_fail (by simp [IsOwn])
  · refine Act.heeds_modify.bind fun _ => heeds_selectFrom.bind fun as => ?_
    refine heeds_execute.bind fun flow => ?_
    split
    · exact (Act.heeds_modify.bind fun _ => heeds_request.bind fun _ => Act.heeds_modify).bind
        fun _ => Act.heeds_pure
    · exact Act.heeds_pure

theorem heeds_visit {index : Nat} {entering : Bool} :
    Act.Heeds .service IsOwn (visit w index entering state) := by
  unfold visit
  split
  · refine Act.heeds_tell.bind fun _ => Act.heeds_modify.bind fun _ => ?_
    refine heeds_execute.bind fun flow => ?_
    split
    · exact heeds_evaluate
    · exact Act.heeds_pure
  · exact heeds_evaluate

theorem heeds_drive {left index : Nat} {entering : Bool} :
    Act.Heeds .service IsOwn (drive w left index entering) := by
  induction left generalizing index entering with
  | zero => exact Act.heeds_modify.bind fun _ => Act.heeds_fail (by simp [IsOwn])
  | succ left ih =>
      unfold drive
      refine Act.heeds_modify.bind fun _ => ?_
      split
      · exact Act.heeds_fail (by simp [IsOwn])
      · refine heeds_visit.bind fun flow => ?_
        split
        · exact ih
        · exact Act.heeds_pure
        · exact ih

theorem after_drive_of_run {c : Course Runner} {rest : Dialogue Runner (Except RunError Unit)}
    (hafter : (run w).After c rest) : exists d,
      (drive w w.options.maxTransitions w.agent.entryIndex true {}).After c d ∧
        forall r e, d = .done r (.error e) ->
          rest = .done { r with phase := .failed } (.error e) := by
  -- A run is the drive of its agent, but for the phase that it ends in.
  rcases Dialogue.After.of_bind hafter with
    ⟨d, hd, rfl⟩ | ⟨front, back, r, result, rfl, hends, hback⟩
  · refine ⟨d, hd, ?_⟩
    rintro r e rfl
    rfl
  · have hback : back = [] ∧ forall e, result = .error e ->
        rest = .done { r with phase := .failed } (.error e) := by
      cases result with
      | ok =>
          cases hback with
          | start =>
              refine ⟨rfl, ?_⟩
              intro e he
              cases he
      | error e =>
          cases hback with
          | start =>
              refine ⟨rfl, ?_⟩
              intro e' he
              cases he
              rfl
    rcases hback with ⟨rfl, hrest⟩
    rw [List.append_nil]
    refine ⟨.done r result, hends, ?_⟩
    intro r' e he
    cases he
    exact hrest e rfl

theorem run_failure {front back : Course Runner} {x : Exchange Runner} {e : ServiceError}
    {rest : Dialogue Runner (Except RunError Unit)}
    (hafter : (run w).After (front ++ x :: back) rest) (hx : x.failure? = some e) :
    back = [] ∧ rest = .done { x.state with phase := .failed } (.error (.service e)) := by
  rcases after_drive_of_run hafter with ⟨d, hd, hrest⟩
  rcases Dialogue.Heeds.failure (heeds_drive {}) hd hx with ⟨hback, hstop⟩
  exact ⟨hback, hrest x.state (.service e) hstop⟩

end

/-- After any course of the run of an agent of a loaded program: the transcript has the
messages that were appended.  The failure of a service is the last thing in the course, and
the run fails with it, its transcript as it was when the service was asked.  The run fails
with nothing but a limit or the first failure of a service.  Whatever a reply says, whatever
a search finds and whatever a script comes to, a template is rendered, unless a service
fails. -/
theorem run_stops_at_failure {text : String} {p : Program} (hloaded : Program.ofText text = .ok p)
    {i : Nat} {a : Agent} (hagent : p.agents[i]? = some a) (o : Options) {c : Course Runner}
    {rest : Dialogue Runner (Except RunError Unit)} (hafter : (run ⟨a, o⟩).After c rest) :
    rest.shown.transcript.messages = appended c ∧
      (forall front x back e, c = front ++ x :: back -> x.failure? = some e ->
        back = [] ∧ x.state.transcript.messages = appended front ∧
          exists r, rest = .done r (.error (.service e)) ∧
            r.transcript = x.state.transcript) ∧
      (forall r e, rest = .done r (.error e) ->
        e = .tooManyTransitions a.name o.maxTransitions ∨ e = .tooManyTurns a.name o.maxTurns ∨
          exists front x s, c = front ++ [x] ∧ (forall y, y ∈ front -> y.failure? = none) ∧
            x.failure? = some s ∧ e = .service s) ∧
      forall (t : Template) (reply : Option String) (r r' : Runner) (c' : Course Runner)
        (result : Except RunError String),
        (Template.Renderer.render ⟨.service, o.topK⟩ t reply r).Ends c' r' result ->
          (forall x, x ∈ c' -> x.failure? = none) -> exists text, result = .ok text := by
  have hmessages := messages_of_run hafter
  refine ⟨hmessages, ?_, ?_, ?_⟩
  · rintro front x back e rfl hx
    rcases run_failure hafter hx with ⟨rfl, rfl⟩
    refine ⟨rfl, ?_, _, rfl, rfl⟩
    have hnothing : appended [x] = [] := by
      rw [appended, List.filterMap_cons, Exchange.appended?_of_failure hx]
      rfl
    rw [appended, List.filterMap_append, ← appended, ← appended, hnothing,
      List.append_nil] at hmessages
    exact hmessages
  · rintro r e rfl
    have hsound := Workflow.isSound_of_ofText hloaded a (List.mem_of_getElem? hagent)
    cases permitted_of_ends (w := ⟨a, o⟩) hsound hafter with
    | transitions => exact Or.inl rfl
    | turns => exact Or.inr (Or.inl rfl)
    | service hlast hx =>
        rename_i x s
        rcases List.getLast?_eq_some_iff.mp hlast with ⟨front, rfl⟩
        refine Or.inr (Or.inr ⟨front, x, s, rfl, ?_, hx, rfl⟩)
        -- An earlier failure would have been the last thing in the course.
        intro y hy
        cases hfailed : y.failure? with
        | none => rfl
        | some s' =>
            rcases List.append_of_mem hy with ⟨before, after, rfl⟩
            rw [List.append_assoc, List.cons_append] at hafter
            have hback := (run_failure hafter hfailed).left
            exact (List.append_ne_nil_of_right_ne_nil after (List.cons_ne_nil x []) hback).elim
  · intro t reply r r' c' result hends hquiet
    exact Template.Renderer.render_ends_ok hends hquiet

def consulting : Agent where
  name := "consulting"
  states := [{
    name := "ask"
    conditions := some {
      clauses := []
      fallback := [
        .message ⟨[.call .python, .text " ", .call .rtfm]⟩ .user .medium none, .finish] } }]

def consultingText : String :=
  "agents:\n" ++
  "- name: consulting\n" ++
  "  states:\n" ++
  "  - name: ask\n" ++
  "    conditions:\n" ++
  "    - default:\n" ++
  "        action:\n" ++
  "        - message: '\x7bpython()\x7d \x7brtfm()\x7d'\n" ++
  "        - end\n"

theorem consultingText_loaded : Program.ofText consultingText = .ok ⟨[consulting]⟩ :=
  eq_ok_of_toOption (by decide +kernel)

/-- The script has run when the search fails, and still the message is not appended. -/
theorem consulting_stops_at_failure :
    Program.ofText consultingText = .ok ⟨[consulting]⟩ ∧
      exists c r, (run ⟨consulting, {}⟩).Ends c r (.error (.service (.retrieval "down"))) ∧
        c.map Exchange.query = [
          .tell (.entered 0),
          .tell (.branched none),
          .complete none [],
          .tell (.appended (.ofRole .assistant "$$$python\n1\n$$$\n$$$rtfm\nquery\n$$$")),
          .execute "1",
          .search "query" 5] ∧
        r.transcript.messages =
          [.ofRole .assistant "$$$python\n1\n$$$\n$$$rtfm\nquery\n$$$"] ∧
        exists front x, c = front ++ [x] ∧ x.failure? = some (.retrieval "down") := by
  have hends := Dialogue.ends_of_play (d := run ⟨consulting, {}⟩)
    (a := .error (.service (.retrieval "down")))
    (Dialogue.scripted (.error (.retrieval "down")))
    ["$$$python\n1\n$$$\n$$$rtfm\nquery\n$$$"] (by decide +kernel)
  have hstops := run_stops_at_failure consultingText_loaded (i := 0) rfl {} hends
  refine ⟨consultingText_loaded, _, _, hends, by decide +kernel,
    hstops.left.trans (by decide +kernel), ?_⟩
  rcases hstops.right.right.left _ _ rfl with hlimit | hlimit | ⟨front, x, s, hcourse, _, hx, hs⟩
  · cases hlimit
  · cases hlimit
  · cases hs
    exact ⟨front, x, hcourse, hx⟩

end Runner
end Colloquy
