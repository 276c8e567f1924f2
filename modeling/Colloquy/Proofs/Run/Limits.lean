import Colloquy.Proofs.Run.Rules

/-!
# Limits of a run

A visit may ask for more than one reply: once for the request that the visit before has
left owed, once for its own clauses, and once more when it stays.  Still the requests of a
run are paid for by its visits.  A visit owes at most one request, and the one that is made
when a visit stays is the one that the next visit does not owe.
-/

namespace Colloquy

open Workflow (Action Agent Clause Conditions State)

namespace Exchange

def isRequest : Exchange σ -> Bool
  | ⟨_, .complete _ _, _⟩ => true
  | _ => false

end Exchange

namespace Course

def requests (c : Course σ) : Nat :=
  c.countP Exchange.isRequest

@[simp] theorem requests_concat {c : Course σ} {x : Exchange σ} :
    requests (c ++ [x]) = requests c + x.isRequest.toNat := by
  rw [requests, requests, List.countP_append, List.countP_singleton]
  cases x.isRequest with
  | true => rfl
  | false => rfl

end Course

namespace Runner

open Course

structure Spent (w : Setting) (c : Course Runner) (r : Runner) : Prop where
  transitions_le : r.transitions <= w.options.maxTransitions + 1
  requests_eq : requests c = min r.turns w.options.maxTurns
  turns_le : r.turns <= r.transitions + 1
  requests_le : requests c <= min w.options.maxTurns (w.options.maxTransitions + 1)

def limited (w : Setting) : Law Runner RunError where
  asks _ _ _ := True
  fails c r _ := Spent w c r

/-- In the visit with this number, `n` requests are paid for: those that were made and the
one that the visit owes. -/
structure Pays (w : Setting) (n visit : Nat) (ready : Bool) (c : Course Runner)
    (r : Runner) : Prop where
  requests_eq : requests c = r.turns
  turns_le : r.turns <= w.options.maxTurns
  paid : r.turns + r.turnOwed.toNat <= n
  visit_eq : r.transitions = visit
  ready_eq : r.replyReady = ready

section

variable {w : Setting} {c : Course Runner} {r : Runner} {state : State} {n visit : Nat}
  {ready : Bool}

theorem Pays.concat (h : Pays w n visit ready c r) {x : Exchange Runner}
    (hx : x.isRequest = false) : Pays w n visit ready (c ++ [x]) r where
  requests_eq := by
    rw [requests_concat, hx]
    exact h.requests_eq
  turns_le := h.turns_le
  paid := h.paid
  visit_eq := h.visit_eq
  ready_eq := h.ready_eq

theorem Pays.spent (h : Pays w n visit ready c r) (hn : n <= visit)
    (hvisit : visit <= w.options.maxTransitions) : Spent w c r := by
  have hpaid := h.paid
  have hturns := h.turns_le
  have hrequests := h.requests_eq
  have htransitions := h.visit_eq
  constructor
  · omega
  · omega
  · omega
  · omega

theorem Spent.phase (h : Spent w c r) (phase : Phase) : Spent w c { r with phase := phase } :=
  ⟨h.transitions_le, h.requests_eq, h.turns_le, h.requests_le⟩

theorem isRequest_of_isTool {x : Exchange Runner} (h : x.query.isTool = true) :
    x.isRequest = false := by
  rcases x with ⟨s, q, answer⟩
  cases q with
  | complete => cases h
  | search => rfl
  | execute => rfl
  | number => rfl
  | tell => rfl

theorem limited_request (h : Pays w n visit ready c r) (hn : n <= visit)
    (hvisit : visit <= w.options.maxTransitions) :
    (limited w).Holds c r (request w state) fun c r _ => Pays w (n + 1) visit ready c r := by
  have hpaid := h.paid
  have hturns := h.turns_le
  have hrequests := h.requests_eq
  have htransitions := h.visit_eq
  have hasked : forall answer, requests (c ++ [asked w state r answer]) = r.turns + 1 := by
    intro answer
    rw [requests_concat, hrequests]
    rfl
  rw [Law.holds_request_iff]
  split
  · rename_i hover
    refine ⟨?_, ?_, ?_, ?_⟩
    · show r.transitions <= _
      omega
    · show requests c = min (r.turns + 1) _
      omega
    · show r.turns + 1 <= r.transitions + 1
      omega
    · omega
  · rename_i hunder
    refine ⟨trivial, fun reply => ⟨trivial, ?_⟩, fun e => ?_⟩
    · refine ⟨?_, ?_, ?_, htransitions, h.ready_eq⟩
      · rw [requests_concat, hasked]
        rfl
      · show r.turns + 1 <= _
        omega
      · show r.turns + 1 + r.turnOwed.toNat <= n + 1
        omega
    · refine ⟨?_, ?_, ?_, ?_⟩
      · show r.transitions <= _
        omega
      · rw [hasked]
        show r.turns + 1 = min (r.turns + 1) _
        omega
      · show r.turns + 1 <= r.transitions + 1
        omega
      · rw [hasked]
        omega

theorem steady_pays (hn : n <= visit) (hvisit : visit <= w.options.maxTransitions) :
    (limited w).Steady w state (Pays w n visit ready) where
  tool := by
  -- A list of actions pays with the request that the visit owes.
    intro c r q h hq
    exact ⟨trivial, fun answer => h.concat (isRequest_of_isTool hq)⟩
  toolFails := by
    intro c r x e h hx _
    exact (h.concat (isRequest_of_isTool hx)).spent hn hvisit
  appended := by
    intro c r m h
    have hsaid := h.concat (x := .told r (.appended m)) rfl
    exact ⟨trivial, hsaid.requests_eq, h.turns_le, h.paid, h.visit_eq, h.ready_eq⟩
  observed := by
    intro c r h
    rw [Law.holds_observe]
    split
    · rename_i howed
      have hpaid := h.paid
      rw [howed, Bool.toNat_true] at hpaid
      obtain ⟨m, rfl⟩ : exists m, n = m + 1 := ⟨n - 1, by omega⟩
      have hsettled : Pays w m visit ready c { r with turnOwed := false } :=
        ⟨h.requests_eq, h.turns_le, Nat.le_of_succ_le_succ hpaid, h.visit_eq, h.ready_eq⟩
      split
      · exact limited_request hsettled (Nat.le_of_succ_le hn) hvisit
      · exact ⟨h.requests_eq, h.turns_le, Nat.le_succ_of_le hsettled.paid, h.visit_eq, h.ready_eq⟩
    · exact h

theorem limited_execute {as : List Action} (h : Pays w n visit ready c r) (hn : n <= visit)
    (hvisit : visit <= w.options.maxTransitions) :
    (limited w).Holds c r (execute w state as) fun c r _ => Pays w n visit ready c r := by
  refine ((steady_pays hn hvisit).execute ?_ ?_ h).mono ?_
  · intro _ _ _ _ _
    exact trivial
  · intro c r _ h _ _
    exact h.spent hn hvisit
  · intro c r flow hflow
    cases flow with
    | stay => exact hflow.left
    | finish => exact hflow
    | goto next =>
        rcases hflow with ⟨target, front, _, _, rfl, h⟩
        exact h.concat rfl

/-!
# Visits

A visit that stays makes the request of the next one, which therefore owes none.
-/

/-- What is paid for when a visit is over.  One that stays has asked for the reply of the
next. -/
def Settles (w : Setting) (visit : Nat) (c : Course Runner) (r : Runner) : Flow -> Prop
  | .stay => Pays w (visit + 1) visit true c r
  | .finish => Pays w visit visit false c r
  | .goto _ => Pays w visit visit false c r

theorem limited_evaluate (h : Pays w n visit ready c r) (hn : n + 1 <= visit + ready.toNat)
    (hvisit : visit <= w.options.maxTransitions) :
    (limited w).Holds c r (evaluate w state) (Settles w visit) := by
  have hpaid := h.paid
  cases hconditions : state.conditions with
  | none =>
      unfold evaluate
      rw [hconditions]
      have hready := Bool.toNat_le ready
      exact h.spent (by omega) hvisit
  | some conditions =>
      have hbegins : Pays w visit visit false c r.beginning := by
        refine ⟨h.requests_eq, h.turns_le, ?_, h.visit_eq, rfl⟩
        show r.turns + (!r.replyReady).toNat <= visit
        rw [h.ready_eq]
        cases ready with
        | true =>
            rw [Bool.toNat_true] at hn
            rw [Bool.not_true, Bool.toNat_false]
            omega
        | false =>
            rw [Bool.toNat_false] at hn
            rw [Bool.not_false, Bool.toNat_true]
            omega
      rw [Law.holds_evaluate hconditions]
      refine ((steady_pays (Nat.le_refl visit) hvisit).selectFrom ?_ ?_ hbegins).mono ?_
      · intro c r i holds h
        exact ⟨trivial, h.concat rfl⟩
      · intro c r b h
        exact ⟨trivial, h.concat rfl⟩
      · intro c r as has
        refine (limited_execute has.left (Nat.le_refl visit) hvisit).mono ?_
        intro c r flow h
        split
        · have hsettled : Pays w visit visit false c { r with turnOwed := false } :=
            ⟨h.requests_eq, h.turns_le, Nat.le_of_add_right_le h.paid, h.visit_eq, h.ready_eq⟩
          refine (limited_request hsettled (Nat.le_refl visit) hvisit).mono ?_
          intro c r _ h
          exact ⟨h.requests_eq, h.turns_le, h.paid, h.visit_eq, rfl⟩
        · rename_i hleft
          cases flow with
          | stay => exact (hleft rfl).elim
          | finish => exact h
          | goto next => exact h

theorem limited_visit {index : Nat} (h : Pays w (visit + ready.toNat) (visit + 1) ready c r)
    (hvisit : visit + 1 <= w.options.maxTransitions) :
    (limited w).Holds c r (Runner.visit w index (!ready) state) (Settles w (visit + 1)) := by
  cases ready with
  | true => exact limited_evaluate h (Nat.le_refl _) hvisit
  | false =>
      have hentered : Pays w visit (visit + 1) false (c ++ [.told r (.entered index)])
          { r with phase := .entry } :=
        have hsaid := h.concat (x := .told r (.entered index)) rfl
        ⟨hsaid.requests_eq, h.turns_le, h.paid, h.visit_eq, h.ready_eq⟩
      rw [Bool.not_false, Law.holds_visit_entering]
      refine ⟨trivial, (limited_execute hentered (Nat.le_succ visit) hvisit).mono ?_⟩
      intro c r flow h
      split
      · exact limited_evaluate h (Nat.le_refl _) hvisit
      · rename_i hleft
        have hpaid : Pays w (visit + 1) (visit + 1) false c r :=
          ⟨h.requests_eq, h.turns_le, Nat.le_succ_of_le h.paid, h.visit_eq, h.ready_eq⟩
        cases flow with
        | stay => exact (hleft rfl).elim
        | finish => exact hpaid
        | goto next => exact hpaid

/-- The induction over the visits of a run.  A state is entered exactly when no reply has
been asked for in advance. -/
theorem limited_drive {left index : Nat} (h : Pays w (visit + ready.toNat) visit ready c r)
    (hleft : visit + left = w.options.maxTransitions) :
    (limited w).Holds c r (drive w left index (!ready)) fun c r _ =>
      Spent w c r ∧ r.turns <= r.transitions := by
  induction left generalizing visit index ready c r with
  | zero =>
      rw [Law.holds_drive_zero]
      have hready := Bool.toNat_le ready
      have hpaid := h.paid
      have hturns := h.turns_le
      have hrequests := h.requests_eq
      have htransitions := h.visit_eq
      refine ⟨?_, ?_, ?_, ?_⟩
      · show r.transitions + 1 <= _
        omega
      · show requests c = min r.turns _
        omega
      · show r.turns <= r.transitions + 1 + 1
        omega
      · omega
  | succ left ih =>
      have hvisit : visit + 1 <= w.options.maxTransitions := by omega
      have hcomes : Pays w (visit + ready.toNat) (visit + 1) ready c (r.coming index) :=
        ⟨h.requests_eq, h.turns_le, h.paid, congrArg Nat.succ h.visit_eq, h.ready_eq⟩
      cases hstate : w.agent.states[index]? with
      | none =>
          rw [drive, Law.holds_bind, Law.holds_modify, hstate]
          exact hcomes.spent (Nat.add_le_add_left (Bool.toNat_le ready) visit) hvisit
      | some s =>
          rw [Law.holds_drive_succ hstate]
          refine (limited_visit hcomes hvisit).mono ?_
          intro c r flow hflow
          cases flow with
          | stay =>
              have hstays : Pays w (visit + 1 + true.toNat) (visit + 1) true c r := hflow
              exact ih hstays (by omega)
          | finish =>
              have hpaid := hflow.paid
              have htransitions := hflow.visit_eq
              exact ⟨hflow.spent (Nat.le_refl _) hvisit, by omega⟩
          | goto next =>
              have hgoes : Pays w (visit + 1 + false.toNat) (visit + 1) false c r := hflow
              exact ih hgoes (by omega)

/-!
# Whole runs
-/

theorem limited_run : (run w).Keeps (limited w).asks
    (fun c r result => Spent w c r ∧ (result = .ok () -> r.turns <= r.transitions)) [] := by
  have hstart : Pays w (0 + false.toNat) 0 false [] {} :=
    ⟨rfl, Nat.zero_le _, Nat.zero_le _, rfl, rfl⟩
  apply Law.keeps_run (limited_drive hstart (Nat.zero_add w.options.maxTransitions))
  · intro c r h
    exact ⟨h.left.phase .terminated, fun _ => h.right⟩
  · intro c r e h
    refine ⟨Spent.phase h .failed, ?_⟩
    intro hok
    cases hok

/-- The agent comes to a visit whose entry actions ask for one reply and whose conditions
ask for two. -/
def AsksThrice (w : Setting) : Prop :=
  exists front r index s entry r' evaluation r'' rest,
    (run w).After (front ++ .told r (.entered index) :: (entry ++ evaluation)) rest ∧
      w.agent.states[index]? = some s ∧
      (execute w s s.entryActions { r with phase := .entry }).Ends entry r' (.ok .stay) ∧
      (evaluate w s r').Ends evaluation r'' (.ok .stay) ∧
      requests entry = 1 ∧ requests evaluation = 2

theorem asksThrice_of_drive {front entry evaluation : Course Runner} {left index : Nat}
    {r' r'' : Runner} {k : Runner -> Except RunError Unit -> Dialogue Runner (Except RunError Unit)}
    (hfront : (run w).After front ((drive w (left + 1) index true r).bind k))
    (hstate : w.agent.states[index]? = some state)
    (hentry : (execute w state state.entryActions { r.coming index with phase := .entry }).Ends
      entry r' (.ok .stay))
    (hevaluation : (evaluate w state r').Ends evaluation r'' (.ok .stay))
    (hone : requests entry = 1) (htwo : requests evaluation = 2) : AsksThrice w := by
  have hvisit : (visit w index true state (r.coming index)).Ends
      (.told (r.coming index) (.entered index) :: (entry ++ evaluation)) r'' (.ok .stay) :=
    Dialogue.After.answered (q := .tell (.entered index)) ()
      (Dialogue.After.append (hentry.bind _) hevaluation)
  have hdrive : exists rest, (drive w (left + 1) index true r).After
      (.told (r.coming index) (.entered index) :: (entry ++ evaluation)) rest := by
    unfold drive
    rw [hstate]
    exact ⟨_, hvisit.bind _⟩
  rcases hdrive with ⟨rest, hdrive⟩
  exact ⟨front, r.coming index, index, state, entry, r', evaluation, r'', rest.bind k,
    hfront.append (hdrive.bind k), hstate, hentry, hevaluation, hone, htwo⟩

end

def relay : Agent where
  name := "relay"
  states := [
    { name := "ask", conditions := some { clauses := [], fallback := [.goto "run"] } },
    { name := "run"
      entry := some [.message ⟨[.call .python]⟩ .user .medium none]
      conditions := some { clauses := [⟨.contains "stop", [.finish]⟩], fallback := [] } }]

theorem relay_asksThrice : AsksThrice ⟨relay, {}⟩ := by
  have hfront : exists front k, (run ⟨relay, {}⟩).After front
      ((drive ⟨relay, {}⟩ 999 1 true
        { transitions := 1, phase := .evaluating, turnOwed := true }).bind k) :=
    ⟨_, _, Dialogue.After.answered (q := .tell (.entered 0)) ()
      (Dialogue.After.answered (q := .tell (.branched none)) ()
        (Dialogue.After.answered (q := .tell (.went "run")) () (Dialogue.After.start _)))⟩
  rcases hfront with ⟨front, k, hfront⟩
  exact asksThrice_of_drive hfront rfl
    (Dialogue.ends_of_play (Dialogue.scripted (.ok [])) ["first", "second", "third"]
      (by decide +kernel))
    (Dialogue.ends_of_play (Dialogue.scripted (.ok [])) ["second", "third"] (by decide +kernel))
    (by decide +kernel) (by decide +kernel)

/-- However the services answer, a run comes to an end, and then its requests, its turns and
its visits are within the limits; still a single visit may send two requests, and its entry
actions a third. -/
theorem run_stays_within_limits :
    (forall (w : Setting) (τ : Type) (answer : Dialogue.Answerer τ) (t : τ),
      exists c r result, (run w).Ends c r result ∧ ((run w).play answer t).2 = (r, result) ∧
        r.transitions <= w.options.maxTransitions + 1 ∧
        requests c = min r.turns w.options.maxTurns ∧
        r.turns <= r.transitions + 1 ∧
        (result = .ok () -> r.turns <= r.transitions) ∧
        requests c <= min w.options.maxTurns (w.options.maxTransitions + 1)) ∧
      exists w, AsksThrice w := by
  refine ⟨?_, _, relay_asksThrice⟩
  intro w τ answer t
  rcases (run w).exists_ends_play answer t with ⟨c, r, result, hends, hplay⟩
  have hkeeps := limited_run.after hends
  rw [List.nil_append] at hkeeps
  rcases hkeeps with ⟨hspent, hok⟩
  exact ⟨c, r, result, hends, hplay, hspent.transitions_le, hspent.requests_eq, hspent.turns_le,
    hok, hspent.requests_le⟩

/-- The three visits of the agent pay for its three requests. -/
theorem relay_stays_within_limits :
    exists c r, (run ⟨relay, {}⟩).Ends c r (.ok ()) ∧ requests c = 3 ∧ r.transitions = 3 ∧
      r.turns <= r.transitions := by
  have hresult : ((run ⟨relay, {}⟩).play (Dialogue.scripted (.ok []))
      ["first", "second", "stop"]).2.2 = .ok () := by decide +kernel
  have hturns : ((run ⟨relay, {}⟩).play (Dialogue.scripted (.ok []))
      ["first", "second", "stop"]).2.1.turns = 3 := by decide +kernel
  have htransitions : ((run ⟨relay, {}⟩).play (Dialogue.scripted (.ok []))
      ["first", "second", "stop"]).2.1.transitions = 3 := by decide +kernel
  rcases run_stays_within_limits.left ⟨relay, {}⟩ (List String) (Dialogue.scripted (.ok []))
    ["first", "second", "stop"] with ⟨c, r, result, hends, hplay, _, hrequests, _, hok, _⟩
  rw [hplay] at hresult hturns htransitions
  have hresult : result = .ok () := hresult
  have hturns : r.turns = 3 := hturns
  rw [hresult] at hends
  rw [hturns] at hrequests
  exact ⟨c, r, hends, hrequests, htransitions, hok hresult⟩

end Runner
end Colloquy
