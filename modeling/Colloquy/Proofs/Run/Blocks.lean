import Colloquy.Proofs.Run.Provenance
import Colloquy.Proofs.Workflow.Sound

/-!
# What tools work on

A script that is run and a query that is searched for are the body of a block in the latest
message with the role of the assistant.  That is the latest reply of the model, unless the
workflow has given the role to a message of its own since: then this message stands in the
place of the reply, whatever its text comes from.
-/

namespace Colloquy

open Workflow (Action Agent Clause Conditions Program State)

/-- The function that a question to a tool is asked for, and the body of the block that the
tool is to work on. -/
def Query.block? : Query -> Option (Function × String)
  | complete _ _ => none
  | search text _ => some (.rtfm, text)
  | execute source => some (.python, source)
  | number _ => none
  | tell _ => none

def Course.latestAssistant? (c : Course σ) : Option Posted :=
  (posted c).reverse.find? fun p => p.message.role == .assistant

theorem Extraction.ofText_empty (tag : String) : ofText "" tag = .noBlock :=
  rfl

namespace Runner

open Course

def sourced : Law Runner RunError where
  asks _ r q := forall f body, q.block? = some (f, body) ->
    exists m, Transcript.lastReply? r.transcript = some m ∧
      Extraction.ofText m.text f.name = .found body
  fails _ _ _ := True

section

variable {w : Setting} {c : Course Runner} {r : Runner} {s : State} {topK : Nat}

theorem sourced_asks {q : Query} (h : q.block? = none) : sourced.asks c r q := by
  intro f body hblock
  rw [h] at hblock
  cases hblock

/-!
# Rendering

Nothing is appended while a template is rendered, so all its calls read the reply that stood
there when it began.
-/

/-- The text that a template reads as the latest reply. -/
def replyText (r : Runner) : String :=
  ((Transcript.lastReply? r.transcript).map Message.text).getD ""

theorem exists_message_of_found {tag body : String}
    (h : Extraction.ofText (replyText r) tag = .found body) :
    exists m, Transcript.lastReply? r.transcript = some m ∧
      Extraction.ofText m.text tag = .found body := by
  unfold replyText at h
  cases hlast : Transcript.lastReply? r.transcript with
  | none =>
      rw [hlast, Option.map_none, Option.getD_none, Extraction.ofText_empty] at h
      cases h
  | some m =>
      rw [hlast] at h
      exact ⟨m, rfl, h⟩

theorem sourced_call {f : Function} :
    sourced.Holds c r (Template.Renderer.call ⟨.service, topK⟩ (replyText r) f)
      fun _ r' _ => r' = r := by
  unfold Template.Renderer.call
  split
  · rename_i body hfound
    rcases exists_message_of_found hfound with ⟨m, hlast, hbody⟩
    have hasked : forall q : Query, q.block? = some (f, body) -> sourced.asks c r q := by
      intro q hq f' body' hblock
      rw [hq] at hblock
      cases hblock
      exact ⟨m, hlast, hbody⟩
    cases f with
    | python =>
        exact Law.holds_bind.mpr (Law.holds_execute.mpr
          ⟨hasked _ rfl, fun _ => rfl, fun _ => trivial⟩)
    | rtfm =>
        refine Law.holds_bind.mpr (Law.holds_search.mpr ⟨hasked _ rfl, ?_, fun _ => trivial⟩)
        intro snippets
        split
        · rfl
        · exact Law.holds_bind.mpr (Law.holds_number.mpr ⟨sourced_asks rfl, fun _ => rfl⟩)
  · rfl

theorem sourced_segments {segments : List Segment} :
    sourced.Holds c r (Template.Renderer.segments ⟨.service, topK⟩ (replyText r) segments)
      fun _ r' _ => r' = r := by
  -- The transcript stays as it is, so all calls read the same reply.
  induction segments generalizing c with
  | nil => rfl
  | cons segment rest ih =>
      have hfirst : sourced.Holds c r
          (Template.Renderer.segment ⟨.service, topK⟩ (replyText r) segment)
          fun _ r' _ => r' = r := by
        cases segment with
        | text t => rfl
        | call f => exact sourced_call
      refine Law.holds_bind.mpr (hfirst.mono ?_)
      rintro c r _ rfl
      exact Law.holds_bind.mpr (ih.mono fun _ _ _ h => h)

theorem sourced_request : sourced.Holds c r (request w s) fun _ _ _ => True := by
  apply Law.holds_request
  · intro _
    exact trivial
  · exact sourced_asks rfl
  · intro _
    exact trivial
  · intro reply
    exact ⟨sourced_asks rfl, trivial⟩

theorem sourced_render {t : Template} :
    sourced.Holds c r (render w s t) fun _ _ _ => True := by
  have hread : forall {c : Course Runner} {r : Runner}, sourced.Holds c r (do
      let r <- Act.get
      let reply := (Transcript.lastReply? r.transcript).map Message.text
      Template.Renderer.render ⟨.service, w.options.topK⟩ t reply) fun _ _ _ => True :=
    Law.holds_bind.mpr (sourced_segments.mono fun _ _ _ _ => trivial)
  unfold render
  split
  · exact Law.holds_bind.mpr ((Law.holds_observe_of (fun _ => sourced_request)
      (fun _ _ _ => trivial) trivial).mono fun _ _ _ _ => hread)
  · exact hread

theorem enduring_sourced : sourced.Enduring w (fun _ _ => True) fun _ _ _ => True where
  told := fun _ _ _ => ⟨sourced_asks rfl, trivial⟩
  rendered := fun _ _ _ => sourced_render
  appended := fun _ _ => ⟨sourced_asks rfl, trivial⟩
  requested := fun _ _ => sourced_request
  moved := fun _ _ _ => trivial
  stops := fun _ _ _ => trivial

theorem sourced_run {q : Query} {next : q.Answer -> Dialogue Runner (Except RunError Unit)}
    (hafter : (run w).After c (.ask r q next)) : sourced.asks c r q := by
  have hrun : (run w).Keeps sourced.asks (fun _ _ _ => True) [] :=
    Law.keeps_run (enduring_sourced.drive trivial) (fun _ _ _ => trivial) fun _ _ _ _ => trivial
  exact (hrun.after hafter).left

/-!
# Authors

The course tells who wrote the message that a tool works on.
-/

theorem lastReply?_of_posted {t : Transcript} (h : t.messages = (posted c).map Posted.message) :
    Transcript.lastReply? t = (latestAssistant? c).map Posted.message := by
  rw [Transcript.lastReply?, h, ← List.map_reverse, List.find?_map]
  rfl

/-- If the model is the author of the latest message with the role of the assistant, the
message is its latest reply. -/
theorem exists_latestReply_of_model {m : Message}
    (hreplies : (replies c).map Message.asReply = writtenBy .model c)
    (h : latestAssistant? c = some ⟨.model, m⟩) :
    exists reply, latestReply? c = some reply ∧ m = reply.asReply := by
  rcases List.find?_eq_some_iff_append.mp h with ⟨_, later, earlier, hsplit, hlater⟩
  have hposted : posted c = earlier.reverse ++ ⟨.model, m⟩ :: later.reverse := by
    rw [← List.reverse_reverse (posted c), hsplit]
    simp
  -- Whatever the model has written has the role of the assistant.
  have hnone : later.reverse.filter (fun p => p.author == .model) = [] := by
    apply List.filter_eq_nil_iff.mpr
    intro p hp hauthor
    have hmem : p.message ∈ (replies c).map Message.asReply := by
      rw [hreplies]
      refine List.mem_map_of_mem (List.mem_filter.mpr ⟨?_, hauthor⟩)
      rw [hposted]
      exact List.mem_append_right _ (List.mem_cons_of_mem _ hp)
    rcases List.mem_map.mp hmem with ⟨reply, _, hreply⟩
    have hrole := hlater p (List.mem_reverse.mp hp)
    rw [← hreply] at hrole
    cases hrole
  have hlast : ((replies c).map Message.asReply).getLast? = some m := by
    rw [hreplies, writtenBy, hposted, List.filter_append, List.filter_cons_of_pos (by rfl), hnone]
    simp
  rw [List.getLast?_map, Option.map_eq_some_iff] at hlast
  rcases hlast with ⟨reply, hreply, hm⟩
  exact ⟨reply, hreply, hm.symm⟩

def Lists (w : Setting) (a : Action) : Prop :=
  exists s as, s ∈ w.agent.states ∧ as ∈ s.actionLists ∧ a ∈ as

theorem Begins.lists {event : Event} {as : List Action} (h : Begins w r event as) {a : Action}
    (ha : a ∈ as) : Lists w a := by
  cases h with
  | entry hstate => exact ⟨_, _, List.mem_of_getElem? hstate, List.mem_cons_self, ha⟩
  | @branch b s cs _ hstate hconditions hbranch =>
      refine ⟨s, as, List.mem_of_getElem? hstate, List.mem_cons_of_mem _ ?_, ha⟩
      rw [hconditions]
      cases b with
      | none =>
          cases hbranch
          exact List.mem_cons_self
      | some i =>
          rcases Option.map_eq_some_iff.mp hbranch with ⟨clause, hclause, rfl⟩
          exact List.mem_cons_of_mem _ (List.mem_map_of_mem (List.mem_of_getElem? hclause))

theorem Executes.lists {executed : List (Action × Message)} {left : List Action}
    (h : Executes w c executed left) :
    (forall a, a ∈ left -> Lists w a) ∧ forall a m, (a, m) ∈ executed -> Lists w a := by
  induction h with
  | start =>
      exact ⟨fun a ha => (List.not_mem_nil ha).elim, fun a m ha => (List.not_mem_nil ha).elim⟩
  | begun h hbegins ih => exact ⟨fun a ha => hbegins.lists ha, ih.right⟩
  | wrote h hwrites hsettled ih =>
      refine ⟨fun a ha => ih.left a (List.mem_cons_of_mem _ ha), ?_⟩
      intro a m ha
      rcases List.mem_append.mp ha with ha | ha
      · exact ih.right a m ha
      · cases List.mem_singleton.mp ha
        exact ih.left _ List.mem_cons_self
  | answered h hreplied ih => exact ih
  | went h ih => exact ⟨fun a ha => (List.not_mem_nil ha).elim, ih.right⟩
  | silent h hsilent ih => exact ih

theorem exists_action_of_workflow {executed : List (Action × Message)} {left : List Action}
    (h : Executes w c executed left) {m : Message} (hposted : ⟨.workflow, m⟩ ∈ posted c)
    (hrole : m.role = .assistant) :
    exists t importance ttl, Lists w (.message t .assistant importance ttl) := by
  have hwritten : m ∈ executed.map Prod.snd := by
    rw [h.map_snd]
    exact List.mem_map_of_mem (f := Posted.message) (List.mem_filter.mpr ⟨hposted, rfl⟩)
  rcases List.mem_map.mp hwritten with ⟨⟨a, m⟩, hmem, rfl⟩
  have hlists := h.lists.right a m hmem
  rcases h.message?_of_mem hmem with ⟨t, write, text, ha, hm⟩
  cases a with
  | goto => cases ha
  | message t role importance ttl =>
      cases ha
      rw [hm] at hrole
      cases hrole
      exact ⟨t, importance, ttl, hlists⟩
  | systemMessage t =>
      cases ha
      rw [hm] at hrole
      cases hrole
  | finish => cases ha

end

/-- What a tool is given is the body of the first block with its tag in the latest message
with the role of the assistant.  If the model is the author, that is the latest reply of the
model.  The workflow is the author only if an action of it gives the role of the assistant. -/
theorem tools_work_on_latest_assistant {w : Setting} {c : Course Runner} {r : Runner} {q : Query}
    {next : q.Answer -> Dialogue Runner (Except RunError Unit)}
    (hafter : (run w).After c (.ask r q next)) {f : Function} {body : String}
    (hblock : q.block? = some (f, body)) :
    exists p, latestAssistant? c = some p ∧
      Extraction.ofText p.message.text f.name = .found body ∧
      (p.author = .model -> exists reply, latestReply? c = some reply ∧
        Extraction.ofText reply.text f.name = .found body) ∧
      (p.author = .workflow -> exists s as t importance ttl, s ∈ w.agent.states ∧
        as ∈ s.actionLists ∧ Action.message t .assistant importance ttl ∈ as) := by
  have haccounts := accounts_of_run hafter
  have hmessages : r.transcript.messages = (posted c).map Posted.message :=
    (messages_of_run hafter).trans map_message_posted.symm
  rcases sourced_run hafter f body hblock with ⟨m, hlast, hbody⟩
  rw [lastReply?_of_posted hmessages] at hlast
  rcases Option.map_eq_some_iff.mp hlast with ⟨⟨author, m⟩, hp, rfl⟩
  refine ⟨⟨author, m⟩, hp, hbody, ?_, ?_⟩
  · rintro rfl
    rcases haccounts.replies_eq with hreplies | ⟨reply, hquery, _⟩
    · rcases exists_latestReply_of_model hreplies hp with ⟨reply, hreply, rfl⟩
      exact ⟨reply, hreply, hbody⟩
    · cases hquery
      cases hblock
  · rintro rfl
    rcases haccounts.executes with ⟨executed, left, hexecutes⟩
    have hrole : m.role = .assistant := by simpa using List.find?_some hp
    have hposted : ⟨.workflow, m⟩ ∈ posted c := List.mem_reverse.mp (List.mem_of_find?_eq_some hp)
    rcases exists_action_of_workflow hexecutes hposted hrole with
      ⟨t, importance, ttl, s, as, hs, has, hmem⟩
    exact ⟨s, as, t, importance, ttl, hs, has, hmem⟩

def echo : Agent where
  name := "echo"
  states := [{
    name := "work"
    conditions := some {
      clauses := [⟨.contains "python", [
        .message ⟨[.call .python]⟩ .assistant .medium none,
        .message ⟨[.call .python]⟩ .user .medium none,
        .finish]⟩]
      fallback := [.finish] } }]

def echoText : String :=
  "agents:\n" ++
  "- name: echo\n" ++
  "  states:\n" ++
  "  - name: work\n" ++
  "    conditions:\n" ++
  "    - if:\n" ++
  "        contains: python\n" ++
  "        action:\n" ++
  "        - message:\n" ++
  "            role: assistant\n" ++
  "            text: '\x7bpython()\x7d'\n" ++
  "        - message: '\x7bpython()\x7d'\n" ++
  "        - end\n" ++
  "    - default:\n" ++
  "        action:\n" ++
  "        - end\n"

theorem echoText_loaded : Program.ofText echoText = .ok ⟨[echo]⟩ :=
  eq_ok_of_toOption (by decide +kernel)

/-- The model replies with a script that prints a block with another one. -/
def nested : Dialogue.Answerer Unit
  | _, .complete _ _ => (.ok (.ofRole .assistant "$$$python\nprint(1)\n$$$"), ())
  | _, .search _ _ => (.ok [], ())
  | _, .execute _ => (.ok (.completed "$$$python\nprint(2)\n$$$"), ())
  | _, .number _ => ((1 : Nat), ())
  | _, .tell _ => ((), ())

theorem echo_works_on_reply :
    exists c r next, (run ⟨echo, {}⟩).After c (.ask r (.execute "print(1)") next) ∧
      exists reply, latestReply? c = some reply ∧
        Extraction.ofText reply.text "python" = .found "print(1)" := by
  let c := ((run ⟨echo, {}⟩).course nested ()).take 5
  have hquery : ((run ⟨echo, {}⟩).course nested ())[5]?.map Exchange.query =
      some (.execute "print(1)") := by decide +kernel
  have hauthor : (latestAssistant? c).map Posted.author = some .model := by decide +kernel
  rcases Dialogue.exists_after_of_course hquery with ⟨r, next, hafter⟩
  rcases tools_work_on_latest_assistant hafter rfl with ⟨p, hp, _, hmodel, _⟩
  rw [hp] at hauthor
  exact ⟨c, r, next, hafter, hmodel (Option.some.inj hauthor)⟩

/-- The second script is what the first has printed, and not the one of the reply: the agent
has it said by the assistant. -/
theorem echo_runs_printed_text :
    Program.ofText echoText = .ok ⟨[echo]⟩ ∧
      exists c r next reply, (run ⟨echo, {}⟩).After c (.ask r (.execute "print(2)") next) ∧
        replies c = [reply] ∧ latestReply? c = some reply ∧
        Extraction.ofText reply.text "python" = .found "print(1)" := by
  have hquery : ((run ⟨echo, {}⟩).course nested ())[7]?.map Exchange.query =
      some (.execute "print(2)") := by decide +kernel
  rcases Dialogue.exists_after_of_course hquery with ⟨r, next, hafter⟩
  exact ⟨echoText_loaded, _, r, next, .ofRole .assistant "$$$python\nprint(1)\n$$$", hafter,
    by decide +kernel, by decide +kernel, by decide +kernel⟩

end Runner
end Colloquy
