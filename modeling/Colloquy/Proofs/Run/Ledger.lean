import Colloquy.Proofs.Run.Rules
import Colloquy.Proofs.Transcript.Pruning

/-!
# Who wrote a transcript

A transcript does not tell the replies of the model from messages that a workflow gives
the role of the assistant.  A course does: the message that is appended right after a
reply is the model's, and all others are the workflow's.
-/

namespace Colloquy

open Workflow (Action Agent Clause Conditions State)

inductive Author where
  | model
  | workflow
deriving DecidableEq

structure Posted where
  author : Author
  message : Message
deriving DecidableEq

namespace Exchange

def reply? : Exchange σ -> Option Message
  | ⟨_, .complete _ _, .ok reply⟩ => some reply
  | _ => none

def appended? : Exchange σ -> Option Message
  | ⟨_, .tell (.appended m), _⟩ => some m
  | _ => none

theorem reply?_of_isTool {x : Exchange σ} (h : x.query.isTool = true) : x.reply? = none := by
  rcases x with ⟨s, q, answer⟩
  cases q with
  | complete => cases h
  | search => rfl
  | execute => rfl
  | number => rfl
  | tell => cases h

theorem appended?_of_isTool {x : Exchange σ} (h : x.query.isTool = true) :
    x.appended? = none := by
  rcases x with ⟨s, q, answer⟩
  cases q with
  | complete => cases h
  | search => rfl
  | execute => rfl
  | number => rfl
  | tell => cases h

end Exchange

structure Ledger where
  posted : List Posted := []
  replied : Bool := false

namespace Ledger

def after (g : Ledger) (x : Exchange σ) : Ledger where
  posted :=
    match x.appended? with
    | some m => g.posted ++ [⟨if g.replied then .model else .workflow, m⟩]
    | none => g.posted
  replied := x.reply?.isSome

def ofCourse (c : Course σ) : Ledger :=
  c.foldl after {}

end Ledger

namespace Course

def posted (c : Course σ) : List Posted :=
  (Ledger.ofCourse c).posted

/-- The model has replied and nothing has happened since. -/
def replied (c : Course σ) : Bool :=
  (Ledger.ofCourse c).replied

def latestReply? (c : Course σ) : Option Message :=
  (c.filterMap Exchange.reply?).getLast?

def appended (c : Course σ) : List Message :=
  c.filterMap Exchange.appended?

def endsInReply (c : Course σ) : Bool :=
  (posted c).getLast?.any fun p => p.author == .model

section

variable {c : Course σ} {x : Exchange σ}

theorem posted_appended {s : σ} {m : Message} : posted (c ++ [.told s (.appended m)]) =
    posted c ++ [⟨if replied c then .model else .workflow, m⟩] := by
  rw [posted, Ledger.ofCourse, List.foldl_append]
  rfl

theorem posted_concat (h : x.appended? = none) : posted (c ++ [x]) = posted c := by
  rw [posted, Ledger.ofCourse, List.foldl_append]
  show (Ledger.after (Ledger.ofCourse c) x).posted = posted c
  rw [Ledger.after, h]
  rfl

theorem replied_concat : replied (c ++ [x]) = x.reply?.isSome := by
  rw [replied, Ledger.ofCourse, List.foldl_append]
  rfl

theorem latestReply?_concat : latestReply? (c ++ [x]) = x.reply?.or (latestReply? c) := by
  rw [latestReply?, List.filterMap_append, List.getLast?_append]
  cases h : x.reply? with
  | none => simp [h, latestReply?]
  | some reply => simp [h]

theorem map_message_after {g : Ledger} : (g.after x).posted.map Posted.message =
    g.posted.map Posted.message ++ x.appended?.toList := by
  cases h : x.appended? with
  | none => simp [Ledger.after, h]
  | some m => simp [Ledger.after, h]

theorem map_message_foldl {g : Ledger} : (c.foldl Ledger.after g).posted.map Posted.message =
    g.posted.map Posted.message ++ appended c := by
  induction c generalizing g with
  | nil => exact (List.append_nil _).symm
  | cons x c ih =>
      have hcons : appended (x :: c) = x.appended?.toList ++ appended c := by
        rw [appended, List.filterMap_cons]
        cases x.appended? with
        | none => rfl
        | some m => rfl
      rw [List.foldl_cons, ih, map_message_after, hcons, List.append_assoc]

theorem map_message_posted : (posted c).map Posted.message = appended c :=
  map_message_foldl

end

end Course

/-!
# Transcripts and courses

A runner has a flag for whether its last message is still to be answered.  The course shows
that the flag is right.
-/

namespace Transcript

theorem lastReply?_of_last? {t : Transcript} {m : Message} (h : t.last? = some m)
    (hrole : m.role = .assistant) : lastReply? t = some m := by
  rcases List.getLast?_eq_some_iff.mp h with ⟨front, hfront⟩
  rw [lastReply?, hfront, List.reverse_append]
  simp [hrole]

end Transcript

open Course

/-- The transcript has the messages of the course; `unanswered` tells whether the last is
the workflow's, and the last is the latest reply if it is the model's. -/
structure Faithful (c : Course Runner) (t : Transcript) (unanswered : Bool) : Prop where
  settled : replied c = false
  messages : t.messages = (posted c).map Posted.message
  unanswered : unanswered = true <-> exists m, (posted c).getLast? = some ⟨.workflow, m⟩
  latest : forall m, (posted c).getLast? = some ⟨.model, m⟩ ->
    exists reply, latestReply? c = some reply ∧ m = reply.asReply

namespace Faithful

variable {c : Course Runner} {t : Transcript} {unanswered : Bool}

theorem initial : Faithful [] [] false where
  settled := rfl
  messages := rfl
  unanswered := by
    constructor
    · intro h
      cases h
    · rintro ⟨m, hm⟩
      cases hm
  latest := by
    intro m hm
    cases hm

theorem silent (h : Faithful c t unanswered) {x : Exchange Runner} (happended : x.appended? = none)
    (hreply : x.reply? = none) : Faithful (c ++ [x]) t unanswered where
  settled := by
    rw [replied_concat, hreply]
    rfl
  messages := by
    rw [posted_concat happended]
    exact h.messages
  unanswered := by
    rw [posted_concat happended]
    exact h.unanswered
  latest := by
    rw [posted_concat happended, latestReply?_concat, hreply]
    exact h.latest

theorem append (h : Faithful c t unanswered) {r : Runner} {m : Message} :
    Faithful (c ++ [.told r (.appended m)]) (t.push m) true where
  settled := replied_concat
  messages := by
    rw [posted_appended, Transcript.messages_push, h.messages, List.map_append]
    rfl
  unanswered := by
    rw [posted_appended, h.settled]
    exact ⟨fun _ => ⟨m, List.getLast?_concat⟩, fun _ => rfl⟩
  latest := by
    intro m' hm'
    rw [posted_appended, h.settled, List.getLast?_concat] at hm'
    cases hm'

theorem answer (h : Faithful c t unanswered) {r r' : Runner} {model : Option String}
    {context : List Message} {reply : Message} (p : Pruning.Policy) :
    Faithful
      (c ++ [⟨r, .complete model context, .ok reply⟩] ++ [.told r' (.appended reply.asReply)])
      ((Transcript.afterRequest p t).push reply.asReply) false where
  settled := replied_concat
  messages := by
    rw [posted_appended, posted_concat rfl, Transcript.messages_push,
      Transcript.messages_afterRequest, h.messages, List.map_append]
    rfl
  unanswered := by
    rw [posted_appended, replied_concat, List.getLast?_concat]
    constructor
    · intro hfalse
      cases hfalse
    · rintro ⟨m, hm⟩
      cases hm
  latest := by
    intro m hm
    rw [posted_appended, replied_concat, List.getLast?_concat] at hm
    cases hm
    refine ⟨reply, ?_, rfl⟩
    rw [latestReply?_concat, latestReply?_concat]
    rfl

theorem of_endsInReply (h : Faithful c t unanswered) (hends : endsInReply c = true) :
    exists reply, latestReply? c = some reply ∧
      (posted c).getLast? = some ⟨.model, reply.asReply⟩ ∧
      t.last? = some reply.asReply ∧ Transcript.lastReply? t = some reply.asReply := by
  cases hlast : (posted c).getLast? with
  | none =>
      rw [endsInReply, hlast] at hends
      cases hends
  | some p =>
      rcases p with ⟨author, m⟩
      have hmodel : author = .model := by simpa [endsInReply, hlast] using hends
      rw [hmodel] at hlast
      rcases h.latest m hlast with ⟨reply, hreply, rfl⟩
      have hmessage : t.last? = some reply.asReply := by
        rw [Transcript.last?, h.messages, List.getLast?_map, hlast]
        rfl
      rw [hmodel]
      exact ⟨reply, hreply, rfl, hmessage, Transcript.lastReply?_of_last? hmessage rfl⟩

theorem asks_eq (h : Faithful c t unanswered) :
    (unanswered || (Transcript.lastReply? t).isNone) = !endsInReply c := by
  cases hends : endsInReply c with
  | true =>
      rcases h.of_endsInReply hends with ⟨reply, _, hlast, _, hreply⟩
      have hanswered : unanswered = false := by
        rw [← Bool.not_eq_true, h.unanswered]
        rintro ⟨m, hm⟩
        rw [hlast] at hm
        cases hm
      rw [hanswered, hreply]
      rfl
  | false =>
      cases hlast : (posted c).getLast? with
      | none =>
          have hnone : t.messages = [] := by
            rw [h.messages, List.getLast?_eq_none_iff.mp hlast]
            rfl
          rw [Transcript.lastReply?, hnone]
          exact Bool.or_true unanswered
      | some p =>
          rcases p with ⟨author, m⟩
          cases author with
          | model =>
              rw [endsInReply, hlast] at hends
              cases hends
          | workflow =>
              rw [h.unanswered.mpr ⟨m, hlast⟩]
              rfl

end Faithful

/-!
# Whole runs

At every point of a run its transcript has the messages that were appended so far, and no
other.
-/

namespace Runner

def recorded : Law Runner RunError where
  asks c r _ := r.transcript.messages = appended c
  fails c r _ := r.transcript.messages = appended c

section

variable {w : Setting} {c : Course Runner} {r : Runner}

theorem recorded_of_faithful {t : Transcript} {unanswered : Bool} (h : Faithful c t unanswered) :
    t.messages = appended c := by
  rw [h.messages, map_message_posted]

theorem recorded_request {state : State} (h : Faithful c r.transcript r.unanswered) :
    recorded.Holds c r (request w state) fun c r _ => Faithful c r.transcript r.unanswered := by
  have hsame : (r.awaiting w).transcript.messages = appended c := by
    rw [awaiting, Transcript.messages_afterRequest]
    exact recorded_of_faithful h
  have hasked : forall answer, appended (c ++ [asked w state r answer]) = appended c := by
    intro answer
    rw [appended, List.filterMap_append]
    exact List.append_nil _
  apply Law.holds_request
  · intro _
    exact recorded_of_faithful h
  · exact hsame
  · intro e
    exact hsame.trans (hasked _).symm
  · intro reply
    exact ⟨hsame.trans (hasked _).symm, h.answer w.options.pruning⟩

theorem lasting_faithful :
    recorded.Lasting w fun c r => Faithful c r.transcript r.unanswered where
  told := by
    intro c r event h hevent
    refine ⟨recorded_of_faithful h, h.silent ?_ rfl⟩
    cases event with
    | appended m => exact (hevent m rfl).elim
    | entered => rfl
    | judged => rfl
    | branched => rfl
    | went => rfl
  tool := by
    intro c r q h hq
    refine ⟨recorded_of_faithful h, fun answer => h.silent ?_ ?_⟩
    · exact Exchange.appended?_of_isTool hq
    · exact Exchange.reply?_of_isTool hq
  toolFails := by
    intro c r x e h hx _
    refine recorded_of_faithful (h.silent ?_ ?_)
    · exact Exchange.appended?_of_isTool hx
    · exact Exchange.reply?_of_isTool hx
  appended := by
    intro c r m h
    exact ⟨recorded_of_faithful h, h.append⟩
  requested := by
    intro c r state h
    exact recorded_request h
  moved := by
    intro c r r' h htranscript hunanswered
    rw [htranscript, hunanswered]
    exact h
  stops := by
    intro c r e h _
    exact recorded_of_faithful h

theorem messages_of_run {rest : Dialogue Runner (Except RunError Unit)}
    (hafter : (run w).After c rest) : rest.shown.transcript.messages = appended c := by
  have hrun : (run w).Keeps recorded.asks (fun c r _ => r.transcript.messages = appended c) [] :=
    Law.keeps_run (lasting_faithful.enduring.drive .initial) (fun _ _ h => recorded_of_faithful h)
      fun _ _ _ h => h
  have hkeeps := hrun.after hafter
  rw [List.nil_append] at hkeeps
  cases rest with
  | done r result => exact hkeeps
  | ask r q next => exact hkeeps.left

end

end Runner
end Colloquy
