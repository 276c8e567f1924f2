import Colloquy.Proofs.Run.Rules

/-!
# Branches of a run

Only the conditions of a state choose a branch, and what follows the choice is the run
of its actions.
-/

namespace Colloquy

open Workflow (Action Agent Clause Conditions State)

/-- The actions of the clause with this index, or of the default. -/
def Workflow.Conditions.branch? (cs : Conditions) : Option Nat -> Option (List Action)
  | none => some cs.fallback
  | some i => cs.clauses[i]?.map Clause.actions

namespace Runner

/-- The agent stays in the state with this index and chooses no branch. -/
def plain (index : Nat) : Law Runner RunError where
  asks _ r q := r.state = index ∧ forall b, q ≠ .tell (.branched b)
  fails _ _ _ := True

section

variable {w : Setting} {c : Course Runner} {r r' : Runner} {index : Nat} {s : State}

theorem plain_request (h : r.state = index) :
    (plain index).Holds c r (request w s) fun _ r _ => r.state = index := by
  apply Law.holds_request
  · intro _
    exact trivial
  · exact ⟨h, by simp⟩
  · intro e
    exact trivial
  · intro reply
    exact ⟨⟨h, by simp⟩, h⟩

theorem plain_observe (h : r.state = index) :
    (plain index).Holds c r (observe w s) fun _ r _ => r.state = index := by
  rw [Law.holds_observe]
  split
  · split
    · exact plain_request h
    · exact h
  · exact h

theorem plain_finishStay (h : r.state = index) :
    (plain index).Holds c r (finishStay w s) fun _ r _ => r.state = index :=
  Law.holds_bind.mpr (Law.holds_bind.mpr
    ((plain_request (r := { r with turnOwed := false }) h).mono fun _ _ _ h => h))

theorem steady_plain : (plain index).Steady w s fun _ r => r.state = index where
  tool := by
    intro c r q h hq
    refine ⟨⟨h, ?_⟩, fun _ => h⟩
    rintro b rfl
    cases hq
  toolFails := by
    intro c r x e _ _ _
    exact trivial
  appended := by
    intro c r m h
    exact ⟨⟨h, by simp⟩, h⟩
  observed := by
    intro c r h
    exact plain_observe h

theorem plain_execute {as : List Action} (h : r.state = index) :
    (plain index).Holds c r (execute w s as) fun _ r _ => r.state = index := by
  refine (steady_plain.execute (fun _ _ _ h _ => ⟨h, by simp⟩) (fun _ _ _ _ _ _ => trivial)
    h).mono ?_
  intro c r flow hflow
  cases flow with
  | stay => exact hflow.left
  | finish => exact hflow
  | goto next =>
      rcases hflow with ⟨_, _, _, _, _, hstate⟩
      exact hstate

theorem not_branched_of_execute {as : List Action} {b : Option Nat}
    {next : Unit -> Dialogue Runner (Except RunError Flow)} :
    ¬ (execute w s as r).After c (.ask r' (.tell (.branched b)) next) := by
  intro h
  exact ((plain_execute (c := []) rfl).asks_of_after h).right b rfl

def Branches (w : Setting) (r : Runner) (b : Option Nat)
    (rest : Dialogue Runner (Except RunError α)) : Prop :=
  exists s cs as more, w.agent.states[r.state]? = some s ∧ s.conditions = some cs ∧
    cs.branch? b = some as ∧ rest = (execute w s as r).bind more

theorem branch_of_selectFrom {cs : Conditions} (before : List Clause) {rest : List Clause}
    (hclauses : cs.clauses = before ++ rest) {b : Option Nat}
    {next : Unit -> Dialogue Runner (Except RunError (List Action))}
    (h : (selectFrom w s cs.fallback before.length rest r).After c
      (.ask r' (.tell (.branched b)) next)) :
    r'.state = r.state ∧ exists as, cs.branch? b = some as ∧ next () = .done r' (.ok as) := by
  induction rest generalizing before r c with
  | nil =>
      cases h with
      | start => exact ⟨rfl, cs.fallback, rfl, rfl⟩
      | answered _ h => cases h
  | cons clause rest ih =>
      rcases Act.after_bind h with ⟨more, hobserve, _⟩ | ⟨front, back, t, _, _, hobserved, h⟩
      · exact (((plain_observe (c := []) rfl).asks_of_after hobserve).right b rfl).elim
      · have hstate : t.state = r.state := (plain_observe (c := []) rfl).of_ends hobserved
        have hclause : cs.clauses[before.length]? = some clause := by
          rw [hclauses, List.getElem?_append_right (Nat.le_refl _), Nat.sub_self]
          rfl
        change Dialogue.After (.ask t (.tell (.judged before.length (t.judges clause))) fun _ =>
          (if t.judges clause = true then do
              Act.tell (.branched (some before.length))
              pure clause.actions
            else selectFrom w s cs.fallback (before.length + 1) rest : Step (List Action)) t)
          back _ at h
        cases h with
        | answered _ h =>
            cases hjudges : t.judges clause with
            | true =>
                rw [hjudges, if_pos rfl] at h
                cases h with
                | start =>
                    refine ⟨hstate, clause.actions, ?_, rfl⟩
                    rw [Conditions.branch?, hclause]
                    rfl
                | answered _ h => cases h
            | false =>
                rw [hjudges, if_neg Bool.false_ne_true] at h
                have hlength : before.length + 1 = (before ++ [clause]).length := by
                  rw [List.length_append]
                  rfl
                rw [hlength] at h
                have hclauses : cs.clauses = (before ++ [clause]) ++ rest := by
                  rw [hclauses, List.append_cons]
                rcases ih (before ++ [clause]) hclauses h with ⟨hsame, hbranch⟩
                exact ⟨hsame.trans hstate, hbranch⟩

theorem branch_of_evaluate (hstate : w.agent.states[r.state]? = some s) {b : Option Nat}
    {next : Unit -> Dialogue Runner (Except RunError Flow)}
    (h : (evaluate w s r).After c (.ask r' (.tell (.branched b)) next)) :
    Branches w r' b (next ()) := by
  unfold evaluate at h
  cases hconditions : s.conditions with
  | none =>
      rw [hconditions] at h
      cases h
  | some cs =>
      rw [hconditions] at h
      rcases Act.after_bind h with ⟨_, hbegin, _⟩ | ⟨_, _, t, _, _, hbegin, h⟩
      · cases hbegin
      · cases hbegin
        rcases Act.after_bind h with ⟨more, hselect, hnext⟩ | ⟨_, _, t, as, _, _, h⟩
        · rcases branch_of_selectFrom [] rfl hselect with ⟨hsame, as, hbranch, hmore⟩
          have hsame : r'.state = r.state := hsame
          have hrest : exists more, next () = (execute w s as r').bind more := by
            rw [hnext (), hmore]
            exact ⟨_, rfl⟩
          rcases hrest with ⟨more, hrest⟩
          exact ⟨s, cs, as, more, hsame ▸ hstate, hconditions, hbranch, hrest⟩
        · rcases Act.after_bind h with ⟨more, hexecute, _⟩ | ⟨_, _, t, flow, _, _, h⟩
          · exact (not_branched_of_execute hexecute).elim
          · cases flow with
            | stay =>
                -- The request at the end of a visit chooses no branch.
                rcases Act.after_bind h with ⟨more, hfinish, _⟩ | ⟨_, _, t, _, _, _, h⟩
                · exact (((plain_finishStay (c := []) rfl).asks_of_after hfinish).right b rfl).elim
                · cases h
            | finish => cases h
            | goto next => cases h

theorem Branches.bind {b : Option Nat} {d : Dialogue Runner (Except RunError α)}
    (h : Branches w r b d)
    (f : Runner -> Except RunError α -> Dialogue Runner (Except RunError β)) :
    Branches w r b (d.bind f) := by
  rcases h with ⟨s, cs, as, more, hstate, hconditions, hbranch, rfl⟩
  exact ⟨s, cs, as, _, hstate, hconditions, hbranch, Dialogue.bind_assoc _ more f⟩

theorem branch_of_visit {entering : Bool} (hstate : w.agent.states[index]? = some s)
    (hindex : r.state = index) {b : Option Nat}
    {next : Unit -> Dialogue Runner (Except RunError Flow)}
    (h : (visit w index entering s r).After c (.ask r' (.tell (.branched b)) next)) :
    Branches w r' b (next ()) := by
  rw [← hindex] at hstate
  cases entering with
  | true =>
      change Dialogue.After (.ask r (.tell (.entered index)) fun _ =>
        (execute w s s.entryActions >>= fun flow =>
          if flow == .stay then evaluate w s else pure flow : Step Flow) { r with phase := .entry })
        c _ at h
      cases h with
      | answered _ h =>
          rcases Act.after_bind h with ⟨more, hexecute, _⟩ | ⟨_, _, t, flow, _, hends, h⟩
          · exact (not_branched_of_execute hexecute).elim
          · have hsame : t.state = r.state :=
              (plain_execute (c := []) (r := { r with phase := .entry }) rfl).of_ends hends
            cases flow with
            | stay => exact branch_of_evaluate (hsame ▸ hstate) h
            | finish => cases h
            | goto next => cases h
  | false => exact branch_of_evaluate hstate h

theorem branch_of_drive {left : Nat} {entering : Bool} {b : Option Nat}
    {next : Unit -> Dialogue Runner (Except RunError Unit)}
    (h : (drive w left index entering r).After c (.ask r' (.tell (.branched b)) next)) :
    Branches w r' b (next ()) := by
  induction left generalizing index entering r c with
  | zero => cases h
  | succ left ih =>
      cases hstate : w.agent.states[index]? with
      | none =>
          rw [drive, hstate] at h
          cases h
      | some s =>
          rw [drive, hstate] at h
          rcases Act.after_bind h with ⟨_, hcome, _⟩ | ⟨_, _, t, _, _, hcome, h⟩
          · cases hcome
          · cases hcome
            rcases Act.after_bind h with ⟨more, hvisit, hnext⟩ | ⟨_, _, t, flow, _, _, h⟩
            · rw [hnext ()]
              exact (branch_of_visit hstate rfl hvisit).bind _
            · cases flow with
              | stay => exact ih h
              | finish => cases h
              | goto next => exact ih h

theorem branch_of_run {b : Option Nat} {next : Unit -> Dialogue Runner (Except RunError Unit)}
    (h : (run w).After c (.ask r' (.tell (.branched b)) next)) : Branches w r' b (next ()) := by
  rcases Dialogue.After.of_bind h with ⟨e, he, hrest⟩ | ⟨_, _, t, result, _, _, h⟩
  · cases e with
    | done t result =>
        cases result with
        | ok => cases hrest
        | error => cases hrest
    | ask t q more =>
        cases hrest
        exact (branch_of_drive he).bind _
  · cases result with
    | ok => cases h
    | error => cases h

end

end Runner
end Colloquy
