import Colloquy.Proofs.Run.Branching
import Colloquy.Proofs.Run.Ledger
import Colloquy.Proofs.Transcript.History

/-!
# Where messages come from

A message of a transcript is a reply of the model or was written by an action.  The course
of a run tells which: a list of actions begins when a state is entered or a branch is
chosen, its message actions write one message each, and between them come the replies that
were asked for meanwhile.  What is asked for is the context of the transcript as the course
has left it.
-/

namespace Colloquy

open Workflow (Action Agent Clause Conditions State)
open Pruning (Policy)

def Workflow.Action.message? : Action -> Option (Template × (String -> Message))
  | .message t role importance ttl =>
      some (t, fun text => { role := role, text := text, importance := importance, ttl := ttl })
  | .systemMessage t => some (t, .ofRole .system)
  | .goto _ => none
  | .finish => none

def Exchange.operation? (p : Policy) : Exchange σ -> Option Transcript.Operation
  | ⟨_, .complete _ _, _⟩ => some (.prepare p)
  | ⟨_, .tell (.appended m), _⟩ => some (.push m)
  | _ => none

/-- The exchange neither begins a list of actions, nor writes a message, nor hands control
on. -/
def Exchange.isSilent : Exchange σ -> Bool
  | ⟨_, .tell (.judged _ _), _⟩ => true
  | ⟨_, .tell _, _⟩ => false
  | _ => true

theorem Exchange.isSilent_of_isTool {x : Exchange σ} (h : x.query.isTool = true) :
    x.isSilent = true := by
  rcases x with ⟨s, q, answer⟩
  cases q with
  | complete => rfl
  | search => rfl
  | execute => rfl
  | number => rfl
  | tell => cases h

theorem Exchange.operation?_of_isTool {x : Exchange σ} {p : Policy} (h : x.query.isTool = true) :
    x.operation? p = none := by
  rcases x with ⟨s, q, answer⟩
  cases q with
  | complete => cases h
  | search => rfl
  | execute => rfl
  | number => rfl
  | tell => cases h

theorem Exchange.appended?_of_isSilent {x : Exchange σ} (h : x.isSilent = true) :
    x.appended? = none := by
  rcases x with ⟨s, q, answer⟩
  cases q with
  | complete => rfl
  | search => rfl
  | execute => rfl
  | number => rfl
  | tell event =>
      cases event with
      | judged => rfl
      | entered => cases h
      | branched => cases h
      | went => cases h
      | appended => cases h

def Dialogue.query? : Dialogue σ α -> Option Query
  | done _ _ => none
  | ask _ q _ => some q

namespace Course

def replies (c : Course σ) : List Message :=
  c.filterMap Exchange.reply?

def writtenBy (a : Author) (c : Course σ) : List Message :=
  ((posted c).filter fun p => p.author == a).map Posted.message

def transcript (p : Policy) (c : Course σ) : Transcript :=
  Transcript.after [] (c.filterMap (Exchange.operation? p))

section

variable {c : Course σ} {x : Exchange σ} {a : Author} {p : Policy} {s : σ} {m : Message}

theorem replies_concat : replies (c ++ [x]) = replies c ++ x.reply?.toList := by
  rw [replies, List.filterMap_append]
  cases h : x.reply? with
  | none => simp [h, replies]
  | some reply => simp [h, replies]

theorem writtenBy_concat (h : x.appended? = none) : writtenBy a (c ++ [x]) = writtenBy a c := by
  rw [writtenBy, posted_concat h]
  rfl

theorem writtenBy_model_appended : writtenBy .model (c ++ [.told s (.appended m)]) =
    writtenBy .model c ++ if replied c = true then [m] else [] := by
  rw [writtenBy, posted_appended, List.filter_append, List.map_append]
  cases replied c with
  | true => rfl
  | false => rfl

theorem writtenBy_workflow_appended : writtenBy .workflow (c ++ [.told s (.appended m)]) =
    writtenBy .workflow c ++ if replied c = true then [] else [m] := by
  rw [writtenBy, posted_appended, List.filter_append, List.map_append]
  cases replied c with
  | true => rfl
  | false => rfl

theorem transcript_concat : transcript p (c ++ [x]) =
    Transcript.after (transcript p c) (x.operation? p).toList := by
  rw [transcript, List.filterMap_append, Transcript.after_append]
  cases h : x.operation? p with
  | none => simp [h, transcript]
  | some op => simp [h, transcript]

end

end Course

namespace Runner

open Course

inductive Begins (w : Setting) (r : Runner) : Event -> List Action -> Prop where
  | entry {i : Nat} {s : State} (hstate : w.agent.states[i]? = some s) :
      Begins w r (.entered i) s.entryActions
  | branch {b : Option Nat} {s : State} {cs : Conditions} {as : List Action}
      (hstate : w.agent.states[r.state]? = some s) (hconditions : s.conditions = some cs)
      (hbranch : cs.branch? b = some as) : Begins w r (.branched b) as

/-- The action writes the message: the last thing done is that its template was rendered. -/
def Writes (w : Setting) (c : Course Runner) (r : Runner) (a : Action) (m : Message) : Prop :=
  exists s t write front mid start text, w.agent.states[r.state]? = some s ∧
    a.message? = some (t, write) ∧ c = front ++ mid ∧
    (render w s t start).Ends mid r (.ok text) ∧ m = write text

/-- The message actions that were executed in a course, each with the message that it wrote,
and what is left of the list of actions under way. -/
inductive Executes (w : Setting) : Course Runner -> List (Action × Message) -> List Action ->
    Prop where
  | start : Executes w [] [] []
  /-- A list of actions begins when the one before is over. -/
  | begun {c : Course Runner} {executed : List (Action × Message)} {r : Runner} {event : Event}
      {as : List Action} (h : Executes w c executed []) (hbegins : Begins w r event as) :
      Executes w (c ++ [.told r event]) executed as
  | wrote {c : Course Runner} {executed : List (Action × Message)} {r : Runner} {a : Action}
      {m : Message} {left : List Action} (h : Executes w c executed (a :: left))
      (hwrites : Writes w c r a m) (hsettled : Course.replied c = false) :
      Executes w (c ++ [.told r (.appended m)]) (executed ++ [(a, m)]) left
  /-- A reply of the model is appended. -/
  | answered {c : Course Runner} {executed : List (Action × Message)} {r : Runner} {m : Message}
      {left : List Action} (h : Executes w c executed left) (hreplied : Course.replied c = true) :
      Executes w (c ++ [.told r (.appended m)]) executed left
  | went {c : Course Runner} {executed : List (Action × Message)} {r : Runner} {target : String}
      {left : List Action} (h : Executes w c executed (.goto target :: left)) :
      Executes w (c ++ [.told r (.went target)]) executed []
  | silent {c : Course Runner} {executed : List (Action × Message)} {x : Exchange Runner}
      {left : List Action} (h : Executes w c executed left) (hsilent : x.isSilent = true) :
      Executes w (c ++ [x]) executed left

structure Accounts (w : Setting) (c : Course Runner) (r : Runner) (query : Option Query) :
    Prop where
  replies_eq : (replies c).map Message.asReply = writtenBy .model c ∨
    exists reply : Message, query = some (.tell (.appended reply.asReply)) ∧
      (replies c).map Message.asReply = writtenBy .model c ++ [reply.asReply]
  executes : exists executed left, Executes w c executed left
  transcript_eq : (forall model context, query ≠ some (.complete model context)) ->
    r.transcript = Course.transcript w.options.pruning c
  requested : forall model context, query = some (.complete model context) ->
    exists s, w.agent.states[r.state]? = some s ∧ model = s.model ∧
      context = Transcript.context w.options.pruning (Course.transcript w.options.pruning c)

def accounted (w : Setting) : Law Runner RunError where
  asks c r q := Accounts w c r (some q)
  fails c r _ := Accounts w c r none

/-- The runner is in the state with this index, all replies were appended, and these actions
are left. -/
structure Books (w : Setting) (index : Nat) (left : List Action) (c : Course Runner)
    (r : Runner) : Prop where
  state_eq : r.state = index
  settled : Course.replied c = false
  replies_eq : (replies c).map Message.asReply = writtenBy .model c
  transcript_eq : r.transcript = Course.transcript w.options.pruning c
  executes : exists executed, Executes w c executed left

section

variable {w : Setting} {c : Course Runner} {r : Runner} {index : Nat} {s : State}
  {left : List Action}

theorem Executes.message?_of_mem {executed : List (Action × Message)}
    (h : Executes w c executed left) {a : Action} {m : Message} (hmem : (a, m) ∈ executed) :
    exists t write text, a.message? = some (t, write) ∧ m = write text := by
  induction h with
  | start => cases hmem
  | begun h hbegins ih => exact ih hmem
  | wrote h hwrites hsettled ih =>
      rcases List.mem_append.mp hmem with hmem | hlast
      · exact ih hmem
      · cases List.mem_singleton.mp hlast
        rcases hwrites with ⟨_, t, write, _, _, _, text, _, ha, _, _, hm⟩
        exact ⟨t, write, text, ha, hm⟩
  | answered h hreplied ih => exact ih hmem
  | went h ih => exact ih hmem
  | silent h hsilent ih => exact ih hmem

theorem Executes.map_snd {executed : List (Action × Message)} (h : Executes w c executed left) :
    executed.map Prod.snd = writtenBy .workflow c := by
  induction h with
  | start => rfl
  | begun h hbegins ih =>
      rw [ih, writtenBy_concat]
      cases hbegins with
      | entry => rfl
      | branch => rfl
  | wrote h hwrites hsettled ih =>
      rw [List.map_append, ih, writtenBy_workflow_appended, hsettled]
      rfl
  | answered h hreplied ih =>
      rw [ih, writtenBy_workflow_appended, if_pos hreplied, List.append_nil]
  | went h ih => rw [ih, writtenBy_concat rfl]
  | silent h hsilent ih => rw [ih, writtenBy_concat (Exchange.appended?_of_isSilent hsilent)]

namespace Books

theorem asks (h : Books w index left c r) {q : Query}
    (hq : forall model context, q ≠ .complete model context) :
    (accounted w).asks c r q where
  replies_eq := Or.inl h.replies_eq
  executes := h.executes.imp fun _ h => ⟨left, h⟩
  transcript_eq := fun _ => h.transcript_eq
  requested := by
    intro model context hcomplete
    cases hcomplete
    exact (hq model context rfl).elim

theorem accounts (h : Books w index left c r) : Accounts w c r none where
  replies_eq := Or.inl h.replies_eq
  executes := h.executes.imp fun _ h => ⟨left, h⟩
  transcript_eq := fun _ => h.transcript_eq
  requested := by
    intro model context hcomplete
    cases hcomplete

theorem moved (h : Books w index left c r) {r' : Runner} {index' : Nat}
    (htranscript : r'.transcript = r.transcript) (hstate : r'.state = index') :
    Books w index' left c r' :=
  ⟨hstate, h.settled, h.replies_eq, htranscript.trans h.transcript_eq, h.executes⟩

theorem concat (h : Books w index left c r) {x : Exchange Runner} {left' : List Action}
    (hreply : x.reply? = none) (happended : x.appended? = none)
    (hoperation : x.operation? w.options.pruning = none)
    (hexecutes : forall executed, Executes w c executed left ->
      Executes w (c ++ [x]) executed left') : Books w index left' (c ++ [x]) r where
  state_eq := h.state_eq
  settled := by
    rw [replied_concat, hreply]
    rfl
  replies_eq := by
    rw [replies_concat, writtenBy_concat happended, hreply]
    show (replies c ++ []).map Message.asReply = _
    rw [List.append_nil]
    exact h.replies_eq
  transcript_eq := by
    rw [transcript_concat, hoperation]
    exact h.transcript_eq
  executes := h.executes.imp hexecutes

theorem tool (h : Books w index left c r) {x : Exchange Runner} (hx : x.query.isTool = true) :
    Books w index left (c ++ [x]) r :=
  h.concat (Exchange.reply?_of_isTool hx) (Exchange.appended?_of_isTool hx)
    (Exchange.operation?_of_isTool hx) fun _ h => h.silent (Exchange.isSilent_of_isTool hx)

end Books

theorem accounted_request (hstate : w.agent.states[index]? = some s)
    (h : Books w index left c r) :
    (accounted w).Holds c r (request w s) fun c r _ => Books w index left c r := by
  have hcarried : forall answer, (r.awaiting w).transcript =
      Course.transcript w.options.pruning (c ++ [asked w s r answer]) := by
    intro answer
    rw [transcript_concat, ← h.transcript_eq]
    rfl
  have hwritten : forall answer,
      writtenBy .model (c ++ [asked w s r answer]) = writtenBy .model c :=
    fun _ => writtenBy_concat rfl
  have hexecutes : forall answer, exists executed,
      Executes w (c ++ [asked w s r answer]) executed left :=
    fun _ => h.executes.imp fun _ h => h.silent rfl
  apply Law.holds_request
  · intro _
    have hcounted : Books w index left c { r with turns := r.turns + 1 } := h.moved rfl h.state_eq
    exact hcounted.accounts
  · refine ⟨Or.inl h.replies_eq, h.executes.imp fun _ h => ⟨left, h⟩, ?_, ?_⟩
    · intro hother
      exact (hother _ _ rfl).elim
    · intro model context hq
      cases hq
      refine ⟨s, ?_, rfl, by rw [h.transcript_eq]⟩
      rw [← h.state_eq] at hstate
      exact hstate
  · intro e
    refine ⟨Or.inl ?_, (hexecutes _).imp fun _ h => ⟨left, h⟩, fun _ => hcarried _, ?_⟩
    · rw [hwritten, replies_concat]
      show (replies c ++ []).map Message.asReply = _
      rw [List.append_nil, h.replies_eq]
    · intro model context hq
      cases hq
  · intro reply
    have hreplies : (replies (c ++ [asked w s r (.ok reply)])).map Message.asReply =
        writtenBy .model (c ++ [asked w s r (.ok reply)]) ++ [reply.asReply] := by
      rw [replies_concat, List.map_append, h.replies_eq, hwritten]
      rfl
    have hreplied : Course.replied (c ++ [asked w s r (.ok reply)]) = true := replied_concat
    constructor
    · refine ⟨Or.inr ⟨reply, rfl, hreplies⟩, (hexecutes _).imp fun _ h => ⟨left, h⟩,
        fun _ => hcarried _, ?_⟩
      intro model context hq
      cases hq
    · refine ⟨h.state_eq, replied_concat, ?_, ?_, (hexecutes _).imp fun _ h => h.answered hreplied⟩
      · rw [replies_concat, writtenBy_model_appended, if_pos hreplied, ← hreplies]
        show (replies _ ++ []).map Message.asReply = _
        rw [List.append_nil]
      · rw [transcript_concat, ← hcarried]
        rfl

theorem rendering_books (hstate : w.agent.states[index]? = some s) :
    (accounted w).Rendering w s (Books w index left) where
  tool := by
    intro c r q h hq
    refine ⟨h.asks ?_, fun answer => ?_⟩
    · rintro model context rfl
      cases hq
    · exact h.tool hq
  toolFails := by
    intro c r x e h hx _
    exact (h.tool hx).accounts
  observed := by
    intro c r h
    rw [Law.holds_observe]
    split
    · have hsettled : Books w index left c { r with turnOwed := false } := h.moved rfl h.state_eq
      split
      · exact accounted_request hstate hsettled
      · exact hsettled
    · exact h

/-!
# Lists of actions

The invariant names the actions that are left, and each message takes one of them away.
-/

theorem accounted_append {a : Action} {m : Message} (h : Books w index (a :: left) c r)
    (hwrites : Writes w c r a m) :
    (accounted w).Holds c r (append m) fun c r _ => Books w index left c r := by
  rw [Law.holds_append]
  refine ⟨h.asks (by simp), h.state_eq, replied_concat, ?_, ?_, ?_⟩
  · rw [replies_concat, writtenBy_model_appended, h.settled]
    show (replies c ++ []).map Message.asReply = writtenBy .model c ++ []
    rw [List.append_nil, List.append_nil]
    exact h.replies_eq
  · rw [transcript_concat, ← h.transcript_eq]
    rfl
  · rcases h.executes with ⟨executed, hexecutes⟩
    exact ⟨_, hexecutes.wrote hwrites h.settled⟩

def Closes (w : Setting) (index : Nat) (c : Course Runner) (r : Runner) : Flow -> Prop
  | .finish => exists left, Books w index (.finish :: left) c r
  | _ => Books w index [] c r

/-- The induction over a list of actions: each that is a message writes one. -/
theorem accounted_execute (hstate : w.agent.states[index]? = some s) {as : List Action}
    (h : Books w index as c r) :
    (accounted w).Holds c r (execute w s as) (Closes w index) := by
  induction as generalizing c r with
  | nil => exact h
  | cons a rest ih =>
      have hmessage : forall t write, a.message? = some (t, write) ->
          (accounted w).Holds c r (do
            let text <- render w s t
            append (write text)
            execute w s rest) (Closes w index) := by
        intro t write ha
        refine Law.holds_bind.mpr (((rendering_books hstate).render h).and_ends.mono ?_)
        rintro c' r' text ⟨h', mid, rfl, hends⟩
        have hwrites : Writes w (c ++ mid) r' a (write text) := by
          rw [← h'.state_eq] at hstate
          exact ⟨s, t, write, c, mid, r, text, hstate, ha, rfl, hends, rfl⟩
        exact Law.holds_bind.mpr ((accounted_append h' hwrites).mono fun _ _ _ h => ih h)
      cases a with
      | goto target =>
          unfold execute
          split
          · refine Law.holds_bind.mpr (Law.holds_tell.mpr ⟨h.asks (by simp), ?_⟩)
            exact h.concat rfl rfl rfl fun _ h => h.went
          · exact h.accounts
      | message t role importance ttl => exact hmessage t _ rfl
      | systemMessage t => exact hmessage t _ rfl
      | finish => exact ⟨rest, h⟩

/-!
# Visits

No action is left when a visit stays or goes on.
-/

theorem accounted_evaluate (hstate : w.agent.states[index]? = some s)
    (h : Books w index [] c r) :
    (accounted w).Holds c r (evaluate w s) (Closes w index) := by
  cases hconditions : s.conditions with
  | none =>
      unfold evaluate
      rw [hconditions]
      exact h.accounts
  | some cs =>
      have hbegins : Books w index [] c r.beginning := h.moved rfl h.state_eq
      rw [Law.holds_evaluate hconditions]
      refine ((rendering_books hstate).selectFrom (fun b as => cs.branch? b = some as)
        (q := fun c r as => Books w index as c r) ?_ ?_ rfl ?_ hbegins).mono ?_
      · intro c r i holds h
        exact ⟨h.asks (by simp), h.concat rfl rfl rfl fun _ h => h.silent rfl⟩
      · intro c r b as h hbranch
        rw [← h.state_eq] at hstate
        refine ⟨h.asks (by simp), h.concat rfl rfl rfl fun _ h => ?_⟩
        exact h.begun (.branch hstate hconditions hbranch)
      · intro j clause hclause
        rw [Nat.zero_add, Conditions.branch?, hclause]
        rfl
      · intro c r as h
        refine (accounted_execute hstate h).mono ?_
        intro c r flow hflow
        split
        · rename_i hstay
          rw [hstay] at hflow
          have hsettled : Books w index [] c { r with turnOwed := false } :=
            Books.moved hflow rfl hflow.state_eq
          refine (accounted_request hstate hsettled).mono ?_
          intro c r _ h
          exact h.moved rfl h.state_eq
        · exact hflow

theorem accounted_visit (hstate : w.agent.states[index]? = some s) {entering : Bool}
    (h : Books w index [] c r) :
    (accounted w).Holds c r (visit w index entering s) (Closes w index) := by
  cases entering with
  | true =>
      have hentered : Books w index s.entryActions (c ++ [.told r (.entered index)])
          { r with phase := .entry } :=
        have hbegun := h.concat (x := .told r (.entered index)) rfl rfl rfl
          fun _ h => h.begun (.entry hstate)
        hbegun.moved rfl hbegun.state_eq
      rw [Law.holds_visit_entering]
      refine ⟨h.asks (by simp), (accounted_execute hstate hentered).mono ?_⟩
      intro c r flow hflow
      split
      · rename_i hstay
        rw [hstay] at hflow
        exact accounted_evaluate hstate hflow
      · exact hflow
  | false => exact accounted_evaluate hstate h

theorem accounted_drive {left index : Nat} {entering : Bool} (h : Books w r.state [] c r) :
    (accounted w).Holds c r (drive w left index entering) fun c r _ => Accounts w c r none := by
  induction left generalizing index entering c r with
  | zero =>
      have hcounted : Books w r.state [] c { r with transitions := r.transitions + 1 } :=
        h.moved rfl rfl
      exact hcounted.accounts
  | succ left ih =>
      have hcomes : Books w index [] c (r.coming index) := h.moved rfl rfl
      cases hstate : w.agent.states[index]? with
      | none =>
          rw [drive, Law.holds_bind, Law.holds_modify, hstate]
          exact hcomes.accounts
      | some s =>
          rw [Law.holds_drive_succ hstate]
          refine (accounted_visit hstate hcomes).mono ?_
          intro c r flow hflow
          cases flow with
          | stay => exact ih (Books.moved hflow rfl rfl)
          | finish =>
              rcases hflow with ⟨left, h⟩
              exact h.accounts
          | goto next => exact ih (Books.moved hflow rfl rfl)

/-!
# Whole runs
-/

theorem accounts_of_run {rest : Dialogue Runner (Except RunError Unit)}
    (hafter : (run w).After c rest) : Accounts w c rest.shown rest.query? := by
  have hstart : Books w ({} : Runner).state [] [] {} := ⟨rfl, rfl, rfl, rfl, [], .start⟩
  have hrun : (run w).Keeps (accounted w).asks (fun c r _ => Accounts w c r none) [] := by
    have hsame : forall c r phase, Accounts w c r none ->
        Accounts w c { r with phase := phase } none :=
      fun _ _ _ h => ⟨h.replies_eq, h.executes, h.transcript_eq, h.requested⟩
    exact Law.keeps_run (accounted_drive hstart) (fun c r h => hsame c r .terminated h)
      fun c r _ h => hsame c r .failed h
  have hkeeps := hrun.after hafter
  rw [List.nil_append] at hkeeps
  cases rest with
  | done r result => exact hkeeps
  | ask r q next => exact hkeeps.left

end

/-- At every point of a run: the transcript has the messages that were told, in order, each by
the model or by the workflow.  Those by the model are its replies, as far as the last is not
just being appended.  Those by the workflow were written by the message actions that were
executed, one by each and in this order.  A request names the model of the state that the
agent is in and carries what the policy keeps of the transcript as it stood. -/
theorem run_accounts_for_messages {w : Setting} {c : Course Runner}
    {rest : Dialogue Runner (Except RunError Unit)} (hafter : (run w).After c rest) :
    rest.shown.transcript.messages = appended c ∧
      appended c = (posted c).map Posted.message ∧
      ((replies c).map Message.asReply = writtenBy .model c ∨
        exists reply : Message, rest.query? = some (.tell (.appended reply.asReply)) ∧
          (replies c).map Message.asReply = writtenBy .model c ++ [reply.asReply]) ∧
      (exists executed left, Executes w c executed left ∧
        writtenBy .workflow c = executed.map Prod.snd ∧
        forall a m, (a, m) ∈ executed ->
          exists t write text, a.message? = some (t, write) ∧ m = write text) ∧
      (forall model context, rest.query? = some (.complete model context) ->
        exists s, w.agent.states[rest.shown.state]? = some s ∧ model = s.model ∧
          context = Transcript.context w.options.pruning
            (Course.transcript w.options.pruning c)) ∧
      ((forall model context, rest.query? ≠ some (.complete model context)) ->
        rest.shown.transcript = Course.transcript w.options.pruning c) := by
  have haccounts := accounts_of_run hafter
  rcases haccounts.executes with ⟨executed, left, hexecutes⟩
  refine ⟨messages_of_run hafter, map_message_posted.symm, haccounts.replies_eq, ?_,
    haccounts.requested, haccounts.transcript_eq⟩
  exact ⟨executed, left, hexecutes, hexecutes.map_snd.symm, fun a m => hexecutes.message?_of_mem⟩

def drafter : Agent where
  name := "drafter"
  states := [
    { name := "draft"
      model := some "fast"
      entry := some [.systemMessage ⟨[.text "Write."]⟩]
      conditions := some {
        clauses := [⟨.contains "ready", [.goto "review"]⟩]
        fallback := [.message ⟨[.text "Go on."]⟩ .user .low (some 1)] } },
    { name := "review"
      model := some "careful"
      entry := some [.message ⟨[.text "Check it."]⟩ .user .high none]
      conditions := some { clauses := [⟨.contains "fine", [.finish]⟩], fallback := [] } }]

theorem drafter_accounts_for_messages :
    exists c r context next,
      (run ⟨drafter, {}⟩).After c (.ask r (.complete (some "careful") context) next) ∧
        context = Transcript.context {} (Course.transcript {} c) ∧
        context.map Message.text = ["Write.", "a line", "Go on.", "ready", "Check it."] ∧
        exists executed left, Executes ⟨drafter, {}⟩ c executed left ∧
          executed.map Prod.snd = [
            { role := .system, text := "Write.", importance := .high },
            { role := .user, text := "Go on.", importance := .low, ttl := some 1 },
            { role := .user, text := "Check it.", importance := .high }] := by
  let c := ((run ⟨drafter, {}⟩).course (Dialogue.scripted (.ok []))
    ["a line", "ready", "fine"]).take 14
  let context := Transcript.context {} (Course.transcript {} c)
  have hquery : ((run ⟨drafter, {}⟩).course (Dialogue.scripted (.ok []))
      ["a line", "ready", "fine"])[14]?.map Exchange.query =
        some (.complete (some "careful") context) := by decide +kernel
  rcases Dialogue.exists_after_of_course hquery with ⟨r, next, hafter⟩
  rcases (run_accounts_for_messages hafter).right.right.right.left with
    ⟨executed, left, hexecutes, hwritten, _⟩
  refine ⟨c, r, context, next, hafter, rfl, by decide +kernel, executed, left, hexecutes, ?_⟩
  rw [← hwritten]
  decide +kernel

end Runner
end Colloquy
