import Colloquy.Proofs.Run.Branching
import Colloquy.Proofs.Run.Ledger

/-!
# What conditions judge

Whenever a clause is tried, the transcript ends in the latest reply of the model, and
the clause is tried on it.  The reply was asked for when the visit before stayed in the
state, or it stood at the end of the conversation when the state was entered, or it
was asked for then.
-/

namespace Colloquy

open Workflow (Action Agent Clause Conditions State)

namespace Runner

open Course

/-!
# The reply of a visit

The course shows how a visit has come by its reply and which clauses were tried on it before.
-/

def tried (r : Runner) (n : Nat) : Course Runner :=
  (List.range n).map fun i => .told r (.judged i false)

def requested (w : Setting) (s : State) (r : Runner) (reply : Message) : Course Runner :=
  [asked w s r (.ok reply), .told (r.replied w) (.appended reply.asReply)]

def Entered (w : Setting) (index : Nat) (s : State) (c : Course Runner) : Prop :=
  exists front mid r r', c = front ++ [.told r (.entered index)] ++ mid ∧
    (execute w s s.entryActions { r with phase := .entry }).Ends mid r' (.ok .stay)

def Branched (w : Setting) (index : Nat) (s : State) (c : Course Runner) : Prop :=
  exists cs b as front mid r r', s.conditions = some cs ∧ cs.branch? b = some as ∧
    c = front ++ [.told r (.branched b)] ++ mid ∧ r.state = index ∧
    (execute w s as r).Ends mid r' (.ok .stay)

/-- How a visit has come by the reply that it judges. -/
inductive Obtained (w : Setting) (index : Nat) (s : State) : Course Runner -> Prop where
  /-- The visit before has asked for it after its branch. -/
  | stayed {c : Course Runner} {r : Runner} {reply : Message} (hbranch : Branched w index s c) :
      Obtained w index s (c ++ requested w s r reply)
  /-- The conversation ends in it after the entry actions. -/
  | carried {c : Course Runner} (hentry : Entered w index s c) (hends : endsInReply c = true) :
      Obtained w index s c
  /-- It is asked for after the entry actions. -/
  | asked {c : Course Runner} {r : Runner} {reply : Message} (hentry : Entered w index s c)
      (hends : endsInReply c = false) : Obtained w index s (c ++ requested w s r reply)

structure Reads (w : Setting) (s : State) (cs : Conditions) (reply : Message) (n : Nat)
    (c : Course Runner) (r : Runner) : Prop where
  exists_state : w.agent.states[r.state]? = some s
  conditions : s.conditions = some cs
  obtained : exists front, c = front ++ tried r n ∧ Obtained w r.state s front
  latest : latestReply? c = some reply
  written : (posted c).getLast? = some ⟨.model, reply.asReply⟩
  last : r.transcript.last? = some reply.asReply
  failed : forall i clause, i < n -> cs.clauses[i]? = some clause ->
    clause.predicate.holds reply.text = false

/-- The outcome of a clause is what the latest reply says. -/
def Judged (w : Setting) (c : Course Runner) (r : Runner) (i : Nat) (holds : Bool) : Prop :=
  exists s cs reply clause, Reads w s cs reply i c r ∧ cs.clauses[i]? = some clause ∧
    holds = clause.predicate.holds reply.text

/-- The branch is that of the first clause that holds, or of the default if none does. -/
inductive Chosen (w : Setting) (s : State) (cs : Conditions) :
    Course Runner -> Runner -> Option Nat -> Prop where
  | clause {c : Course Runner} {r : Runner} {i : Nat} {reply : Message} {clause : Clause}
      (hreads : Reads w s cs reply i c r) (hclause : cs.clauses[i]? = some clause)
      (hholds : clause.predicate.holds reply.text = true) :
      Chosen w s cs (c ++ [.told r (.judged i true)]) r (some i)
  | fallback {c : Course Runner} {r : Runner}
      (hreads : cs.clauses ≠ [] -> exists reply, Reads w s cs reply cs.clauses.length c r) :
      Chosen w s cs c r none

def judging (w : Setting) : Law Runner RunError where
  asks c r q :=
    (forall i holds, q = .tell (.judged i holds) -> Judged w c r i holds) ∧
      forall b, q = .tell (.branched b) -> exists s cs,
        w.agent.states[r.state]? = some s ∧ s.conditions = some cs ∧ Chosen w s cs c r b
  fails _ _ _ := True

/-!
# Lists of actions

While actions run, nothing is judged and no branch is chosen.
-/

section

variable {w : Setting} {c : Course Runner} {r : Runner} {index : Nat} {s : State}

theorem judging_asks {q : Query} (hjudged : forall i holds, q ≠ .tell (.judged i holds))
    (hbranched : forall b, q ≠ .tell (.branched b)) : (judging w).asks c r q :=
  ⟨fun i holds h => (hjudged i holds h).elim, fun b h => (hbranched b h).elim⟩

/-- The runner is in the state with this index, its transcript is that of the course, and
the visit has no reply from the one before. -/
structure Stands (index : Nat) (c : Course Runner) (r : Runner) : Prop where
  state : r.state = index
  ready : r.replyReady = false
  faithful : Faithful c r.transcript r.unanswered

theorem Stands.silent (h : Stands index c r) {x : Exchange Runner} (happended : x.appended? = none)
    (hreply : x.reply? = none) : Stands index (c ++ [x]) r :=
  ⟨h.state, h.ready, h.faithful.silent happended hreply⟩

theorem judging_request (h : Faithful c r.transcript r.unanswered) :
    (judging w).Holds c r (request w s) fun c' r' _ => exists reply,
      c' = c ++ requested w s r reply ∧ r' = r.answered w reply ∧
        Faithful c' r'.transcript r'.unanswered := by
  apply Law.holds_request
  · intro _
    exact trivial
  · exact judging_asks (by simp) (by simp)
  · intro e
    exact trivial
  · intro reply
    refine ⟨judging_asks (by simp) (by simp), reply, ?_, rfl, h.answer w.options.pruning⟩
    rw [List.append_assoc]
    rfl

theorem steady_stands : (judging w).Steady w s (Stands index) where
  tool := by
    intro c r q h hq
    cases q with
    | complete => cases hq
    | search =>
        exact ⟨judging_asks (by simp) (by simp), fun _ => h.silent rfl rfl⟩
    | execute =>
        exact ⟨judging_asks (by simp) (by simp), fun _ => h.silent rfl rfl⟩
    | number =>
        exact ⟨judging_asks (by simp) (by simp), fun _ => h.silent rfl rfl⟩
    | tell => cases hq
  toolFails := by
    intro c r x e _ _ _
    exact trivial
  appended := by
    intro c r m h
    exact ⟨judging_asks (by simp) (by simp), h.state, h.ready, h.faithful.append⟩
  observed := by
    intro c r h
    rw [Law.holds_observe]
    split
    · split
      · refine (judging_request (r := { r with turnOwed := false }) h.faithful).mono ?_
        rintro c' r' _ ⟨reply, -, rfl, hfaithful⟩
        exact ⟨h.state, h.ready, hfaithful⟩
      · exact ⟨h.state, h.ready, h.faithful⟩
    · exact h

theorem judging_execute {as : List Action} (h : Stands index c r) :
    (judging w).Holds c r (execute w s as) (Law.Leaves w (Stands index) as) :=
  steady_stands.execute (fun _ _ _ _ _ => judging_asks (by simp) (by simp))
    (fun _ _ _ _ _ _ => trivial) h

/-!
# Visits

The first clause that is tried makes the request that is still owed, and all others read the
same reply.  The invariant of the clauses is that those before have failed on this reply.
-/

theorem endsInReply_requested {reply : Message} :
    endsInReply (c ++ requested w s r reply) = true := by
  have hposted : posted (c ++ requested w s r reply) = posted c ++ [⟨.model, reply.asReply⟩] := by
    rw [requested, List.append_cons, posted_appended, posted_concat rfl, replied_concat]
    rfl
  rw [endsInReply, hposted, List.getLast?_concat]
  rfl

theorem tried_succ {n : Nat} : tried r (n + 1) = tried r n ++ [.told r (.judged n false)] := by
  rw [tried, List.range_succ, List.map_append]
  rfl

theorem reads_of_obtained {cs : Conditions} (hstate : w.agent.states[index]? = some s)
    (hconditions : s.conditions = some cs) (h : Stands index c r)
    (hobtained : Obtained w index s c) (hends : endsInReply c = true) :
    exists reply, Reads w s cs reply 0 c r := by
  rcases h.faithful.of_endsInReply hends with ⟨reply, hlatest, hwritten, hlast, _⟩
  rw [← h.state] at hstate hobtained
  refine ⟨reply, hstate, hconditions, ⟨c, (List.append_nil c).symm, hobtained⟩, hlatest, hwritten,
    hlast, ?_⟩
  intro i clause hi
  cases hi

def Tries (w : Setting) (index : Nat) (s : State) (cs : Conditions) (n : Nat) (c : Course Runner)
    (r : Runner) : Prop :=
  (n = 0 ∧ r.turnOwed = true ∧ Entered w index s c) ∨
    (r.turnOwed = false ∧ exists reply, Reads w s cs reply n c r)

theorem judging_observe {cs : Conditions} (hstate : w.agent.states[index]? = some s)
    (hconditions : s.conditions = some cs) {n : Nat} (h : Stands index c r)
    (htries : Tries w index s cs n c r) :
    (judging w).Holds c r (observe w s) fun c r _ =>
      Stands index c r ∧ r.turnOwed = false ∧ exists reply, Reads w s cs reply n c r := by
  rw [Law.holds_observe]
  rcases htries with ⟨rfl, howed, hentry⟩ | ⟨howed, hreads⟩
  · rw [if_pos howed, h.faithful.asks_eq]
    have hsettled : Stands index c { r with turnOwed := false } := ⟨h.state, h.ready, h.faithful⟩
    cases hends : endsInReply c with
    | true =>
        exact ⟨hsettled, rfl,
          reads_of_obtained hstate hconditions hsettled (.carried hentry hends) hends⟩
    | false =>
        refine (judging_request hsettled.faithful).mono ?_
        rintro c' r' _ ⟨reply, rfl, rfl, hfaithful⟩
        have hanswered : Stands index (c ++ requested w s { r with turnOwed := false } reply)
            (answered w reply { r with turnOwed := false }) := ⟨h.state, h.ready, hfaithful⟩
        exact ⟨hanswered, rfl, reads_of_obtained hstate hconditions hanswered
          (.asked hentry hends) endsInReply_requested⟩
  · rw [if_neg (Bool.eq_false_iff.mp howed)]
    exact ⟨h, howed, hreads⟩

theorem Reads.judges_eq {cs : Conditions} {reply : Message} {n : Nat}
    (h : Reads w s cs reply n c r) (clause : Clause) :
    r.judges clause = clause.predicate.holds reply.text := by
  rw [judges, Transcript.lastReply?_of_last? h.last rfl]
  rfl

theorem Reads.next {cs : Conditions} {reply : Message} {n : Nat} {clause : Clause}
    (h : Reads w s cs reply n c r) (hclause : cs.clauses[n]? = some clause)
    (hfalse : clause.predicate.holds reply.text = false) :
    Reads w s cs reply (n + 1) (c ++ [.told r (.judged n false)]) r := by
  rcases h.obtained with ⟨front, hcourse, hobtained⟩
  refine ⟨h.exists_state, h.conditions, ⟨front, ?_, hobtained⟩, ?_, ?_, h.last, ?_⟩
  · rw [hcourse, tried_succ, List.append_assoc]
  · rw [latestReply?_concat, h.latest]
    rfl
  · rw [posted_concat rfl]
    exact h.written
  · intro i clause' hi hclause'
    rcases Nat.lt_succ_iff_lt_or_eq.mp hi with hlt | rfl
    · exact h.failed i clause' hlt hclause'
    · rw [hclause] at hclause'
      cases hclause'
      exact hfalse

def Takes (cs : Conditions) (c : Course Runner) (r : Runner) (as : List Action) : Prop :=
  exists front b, c = front ++ [.told r (.branched b)] ∧ cs.branch? b = some as

theorem judging_selectFrom {cs : Conditions} (hstate : w.agent.states[index]? = some s)
    (hconditions : s.conditions = some cs) (before : List Clause) {rest : List Clause}
    (hclauses : cs.clauses = before ++ rest) (h : Stands index c r)
    (htries : Tries w index s cs before.length c r) :
    (judging w).Holds c r (selectFrom w s cs.fallback before.length rest) fun c r as =>
      Stands index c r ∧ Takes cs c r as := by
  induction rest generalizing before c r with
  | nil =>
      rw [Law.holds_selectFrom_nil]
      rw [List.append_nil] at hclauses
      have hchosen : Chosen w s cs c r none := by
        refine .fallback fun hne => ?_
        rw [hclauses] at hne ⊢
        rcases htries with ⟨hzero, _⟩ | ⟨_, hreads⟩
        · exact (hne (List.length_eq_zero_iff.mp hzero)).elim
        · exact hreads
      refine ⟨⟨?_, ?_⟩, h.silent rfl rfl, c, none, rfl, rfl⟩
      · intro i holds hq
        cases hq
      · intro b hq
        cases hq
        exact ⟨s, cs, h.state ▸ hstate, hconditions, hchosen⟩
  | cons clause rest ih =>
      rw [Law.holds_selectFrom_cons]
      refine (judging_observe hstate hconditions h htries).mono ?_
      rintro c r _ ⟨h, howed, reply, hreads⟩
      have hclause : cs.clauses[before.length]? = some clause := by
        rw [hclauses, List.getElem?_append_right (Nat.le_refl _), Nat.sub_self]
        rfl
      have hjudged : forall holds, Stands index (c ++ [.told r (.judged before.length holds)]) r :=
        fun _ => h.silent rfl rfl
      refine ⟨⟨?_, ?_⟩, ?_⟩
      · intro i holds hq
        cases hq
        exact ⟨s, cs, reply, clause, hreads, hclause, hreads.judges_eq clause⟩
      · intro b hq
        cases hq
      · cases hholds : clause.predicate.holds reply.text with
        | true =>
            rw [if_pos (by rw [hreads.judges_eq clause, hholds])]
            refine ⟨⟨?_, ?_⟩, (hjudged true).silent rfl rfl, _, some before.length, rfl, ?_⟩
            · intro i holds hq
              cases hq
            · intro b hq
              cases hq
              exact ⟨s, cs, hreads.exists_state, hconditions, .clause hreads hclause hholds⟩
            · rw [Conditions.branch?, hclause]
              rfl
        | false =>
            rw [if_neg (by rw [hreads.judges_eq clause, hholds]; exact Bool.false_ne_true)]
            have hlength : before.length + 1 = (before ++ [clause]).length := by
              rw [List.length_append]
              rfl
            rw [hlength]
            refine ih (before ++ [clause]) ?_ (hjudged false) (Or.inr ⟨howed, reply, ?_⟩)
            · rw [hclauses, List.append_cons]
            · rw [← hlength]
              exact hreads.next hclause hholds

/-- The visit before has stayed in the state and has asked for a reply. -/
structure Awaits (w : Setting) (index : Nat) (s : State) (c : Course Runner) (r : Runner) :
    Prop where
  state : r.state = index
  ready : r.replyReady = true
  faithful : Faithful c r.transcript r.unanswered
  obtained : Obtained w index s c
  ends : endsInReply c = true

def Passes (w : Setting) (index : Nat) (s : State) (c : Course Runner) (r : Runner) :
    Flow -> Prop
  | .stay => Awaits w index s c r
  | .goto _ => r.replyReady = false ∧ Faithful c r.transcript r.unanswered
  | .finish => True

theorem judging_evaluate (hstate : w.agent.states[index]? = some s)
    (h : Stands index c r ∧ Entered w index s c ∨ Awaits w index s c r) :
    (judging w).Holds c r (evaluate w s) (Passes w index s) := by
  cases hconditions : s.conditions with
  | none =>
      rw [evaluate, hconditions, Law.holds_fail]
      exact trivial
  | some cs =>
      rw [Law.holds_evaluate hconditions]
      have htries : Stands index c r.beginning ∧ Tries w index s cs 0 c r.beginning := by
        rcases h with ⟨h, hentry⟩ | h
        · refine ⟨⟨h.state, rfl, h.faithful⟩, Or.inl ⟨rfl, ?_, hentry⟩⟩
          rw [beginning, h.ready]
          rfl
        · have hstands : Stands index c r.beginning := ⟨h.state, rfl, h.faithful⟩
          refine ⟨hstands, Or.inr ⟨?_, reads_of_obtained hstate hconditions hstands h.obtained
            h.ends⟩⟩
          rw [beginning, h.ready]
          rfl
      refine (judging_selectFrom hstate hconditions [] rfl htries.left htries.right).mono ?_
      rintro c r as ⟨h, front, b, hcourse, hbranch⟩
      refine (judging_execute h).and_ends.mono ?_
      rintro c' r' flow ⟨hflow, back, rfl, hends⟩
      cases flow with
      | stay =>
          have hbranched : Branched w index s (c ++ back) :=
            ⟨cs, b, as, front, back, r, r', hconditions, hbranch, by rw [hcourse], h.state, hends⟩
          rw [if_pos rfl]
          refine (judging_request (r := { r' with turnOwed := false }) hflow.left.faithful).mono ?_
          rintro c'' r'' _ ⟨reply, rfl, rfl, hfaithful⟩
          exact ⟨hflow.left.state, rfl, hfaithful, .stayed hbranched, endsInReply_requested⟩
      | finish => exact trivial
      | goto next =>
          rcases hflow with ⟨target, front, _, _, hgone, hfront⟩
          refine ⟨hfront.ready, ?_⟩
          rw [hgone]
          exact hfront.faithful.silent rfl rfl

theorem judging_visit (hstate : w.agent.states[index]? = some s) {entering : Bool}
    (h : (entering = true ∧ r.replyReady = false ∧ Faithful c r.transcript r.unanswered) ∨
      (entering = false ∧ Awaits w index s c r)) :
    (judging w).Holds c (r.coming index) (visit w index entering s) (Passes w index s) := by
  rcases h with ⟨rfl, hready, hfaithful⟩ | ⟨rfl, h⟩
  · rw [Law.holds_visit_entering]
    refine ⟨judging_asks (by simp) (by simp), ?_⟩
    have hstands : Stands index (c ++ [.told (r.coming index) (.entered index)])
        { r.coming index with phase := .entry } := ⟨rfl, hready, hfaithful.silent rfl rfl⟩
    refine (judging_execute hstands).and_ends.mono ?_
    rintro c' r' flow ⟨hflow, back, rfl, hends⟩
    cases flow with
    | stay => exact judging_evaluate hstate (Or.inl ⟨hflow.left, c, back, _, r', rfl, hends⟩)
    | finish => exact trivial
    | goto next =>
        rcases hflow with ⟨target, front, _, _, hgone, hfront⟩
        refine ⟨hfront.ready, ?_⟩
        rw [hgone]
        exact hfront.faithful.silent rfl rfl
  · exact judging_evaluate hstate (Or.inr ⟨rfl, h.ready, h.faithful, h.obtained, h.ends⟩)

/-- The induction over the visits of a run. -/
theorem judging_drive {left : Nat} {entering : Bool}
    (h : (entering = true ∧ r.replyReady = false ∧ Faithful c r.transcript r.unanswered) ∨
      (entering = false ∧ forall s, w.agent.states[index]? = some s -> Awaits w index s c r)) :
    (judging w).Holds c r (drive w left index entering) fun _ _ _ => True := by
  induction left generalizing index entering c r with
  | zero => exact trivial
  | succ left ih =>
      cases hstate : w.agent.states[index]? with
      | none =>
          rw [drive, Law.holds_bind, Law.holds_modify, hstate]
          exact trivial
      | some s =>
          rw [Law.holds_drive_succ hstate]
          have hvisit : (entering = true ∧ r.replyReady = false ∧
              Faithful c r.transcript r.unanswered) ∨
                (entering = false ∧ Awaits w index s c r) :=
            h.imp_right fun h => ⟨h.left, h.right s hstate⟩
          refine (judging_visit hstate hvisit).mono ?_
          intro c r flow hflow
          cases flow with
          | stay =>
              refine ih (Or.inr ⟨rfl, ?_⟩)
              intro s' hs'
              rw [hstate] at hs'
              cases hs'
              exact hflow
          | finish => exact trivial
          | goto next => exact ih (Or.inl ⟨rfl, hflow⟩)

/-!
# Whole runs
-/

theorem judging_run : (run w).Keeps (judging w).asks (fun _ _ _ => True) [] :=
  Law.keeps_run (judging_drive (Or.inl ⟨rfl, rfl, Faithful.initial⟩)) (fun _ _ _ => trivial)
    fun _ _ _ _ => trivial

end

/-- At any moment of a run: the clause that is tried is tried on the latest reply of the
model, in which the transcript ends, and the branch that is chosen is that of the first
clause that holds of it, or the default, and runs next. -/
theorem run_judges_latest_reply {w : Setting} {c : Course Runner} {r : Runner} {event : Event}
    {next : Unit -> Dialogue Runner (Except RunError Unit)}
    (hafter : (run w).After c (.ask r (.tell event) next)) :
    (forall i holds, event = .judged i holds -> Judged w c r i holds) ∧
      forall b, event = .branched b -> exists s cs as more,
        w.agent.states[r.state]? = some s ∧ s.conditions = some cs ∧ Chosen w s cs c r b ∧
          cs.branch? b = some as ∧ next () = (execute w s as r).bind more := by
  have hasks := (judging_run.after hafter).left
  rw [List.nil_append] at hasks
  constructor
  · intro i holds hevent
    exact hasks.left i holds (congrArg Query.tell hevent)
  · rintro b rfl
    rcases hasks.right b rfl with ⟨s, cs, hstate, hconditions, hchosen⟩
    rcases branch_of_run hafter with ⟨s', cs', as, more, hstate', hconditions', hbranch, hrest⟩
    rw [hstate] at hstate'
    cases hstate'
    rw [hconditions] at hconditions'
    cases hconditions'
    exact ⟨s, cs, as, more, hstate, hconditions, hchosen, hbranch, hrest⟩

def asker : Agent where
  name := "asker"
  states := [{
    name := "ask"
    conditions := some { clauses := [⟨.contains "yes", [.finish]⟩], fallback := [] } }]

theorem asker_judges_reply :
    exists c r next,
      (run ⟨asker, {}⟩).After c (.ask r (.tell (.judged 0 true)) next) ∧
        latestReply? c = some ⟨.user, "yes", .medium, none⟩ ∧ Judged ⟨asker, {}⟩ c r 0 true := by
  let w : Setting := ⟨asker, {}⟩
  let reply : Message := ⟨.user, "yes", .medium, none⟩
  let r : Runner := { transitions := 1, phase := .evaluating }
  have hholds : (r.answered w reply).judges ⟨.contains "yes", [.finish]⟩ = true := by decide +kernel
  have hrun : exists (more : Except ServiceError Message -> Dialogue Runner (Except RunError Unit))
      (next : Unit -> Dialogue Runner (Except RunError Unit)),
      (run w = .ask { r with phase := .entry } (.tell (.entered 0)) fun _ =>
        .ask (r.awaiting w) (.complete none []) more) ∧
      (more (.ok reply) = .ask (r.replied w) (.tell (.appended reply.asReply)) fun _ =>
        .ask (r.answered w reply)
          (.tell (.judged 0 ((r.answered w reply).judges ⟨.contains "yes", [.finish]⟩))) next) :=
    ⟨_, _, rfl, rfl⟩
  rcases hrun with ⟨more, next, hrun, hmore⟩
  rw [hholds] at hmore
  have hafter : (run w).After [.told { r with phase := .entry } (.entered 0),
      ⟨r.awaiting w, .complete none [], .ok reply⟩,
      .told (r.replied w) (.appended reply.asReply)]
      (.ask (r.answered w reply) (.tell (.judged 0 true)) next) := by
    rw [hrun]
    refine Dialogue.After.answered (q := .tell (.entered 0)) () ?_
    refine Dialogue.After.answered (q := .complete none []) (.ok reply) ?_
    rw [hmore]
    exact Dialogue.After.answered (q := .tell (.appended reply.asReply)) () (Dialogue.After.start _)
  exact ⟨_, _, next, hafter, rfl, (run_judges_latest_reply hafter).left 0 true rfl⟩

end Runner
end Colloquy
