import Colloquy.Proofs.Dialogue.Course
import Colloquy.Run.Report

/-!
# Joint courses

Agents that take their steps in some order have their questions answered one after the
other.  The joint course lists them as they come; what it has of one agent is a course of
the run of this agent.
-/

namespace Colloquy

structure Turn where
  index : Nat
  agent : String
  exchange : Exchange Runner

/-- The exchange that a step of the agent at `index` makes, if the agent waits. -/
def turn? (s : Surroundings τ) (t : τ) (agents : List UnderWay) (index : Nat) : Option Turn :=
  match agents[index]? with
  | some (a, .ask r q _) => some ⟨index, a.name, ⟨r, q, (s a.name t q).1⟩⟩
  | _ => none

def jointCourse (s : Surroundings τ) (t : τ) (agents : List UnderWay) : List Nat -> List Turn
  | [] => []
  | index :: order =>
      (turn? s t agents index).toList ++
        jointCourse s (stepAgent s t agents index).1 (stepAgent s t agents index).2 order

def ownCourse (i : Nat) (turns : List Turn) : Course Runner :=
  (turns.filter fun x => x.index == i).map Turn.exchange

/-- All questions are answered one after the other, from one memory to another. -/
inductive Answered (s : Surroundings τ) : τ -> List Turn -> τ -> Prop where
  | nil {t : τ} : Answered s t [] t
  | cons {t u : τ} {i : Nat} {a : String} {r : Runner} {q : Query} {turns : List Turn}
      (h : Answered s (s a t q).2 turns u) :
      Answered s t (⟨i, a, ⟨r, q, (s a t q).1⟩⟩ :: turns) u

section

variable {s : Surroundings τ} {t : τ} {agents : List UnderWay} {order : List Nat} {index i : Nat}

theorem stepAgent_cases (s : Surroundings τ) (t : τ) (agents : List UnderWay) (index : Nat) :
    (turn? s t agents index = none ∧ stepAgent s t agents index = (t, agents)) ∨
      exists a r q next, agents[index]? = some (a, .ask r q next) ∧
        turn? s t agents index = some ⟨index, a.name, ⟨r, q, (s a.name t q).1⟩⟩ ∧
        stepAgent s t agents index =
          ((s a.name t q).2, agents.set index (a, next (s a.name t q).1)) := by
  unfold turn? stepAgent
  cases hstands : agents[index]? with
  | none => exact Or.inl ⟨rfl, rfl⟩
  | some x =>
      rcases x with ⟨a, d⟩
      cases d with
      | done r result => exact Or.inl ⟨rfl, rfl⟩
      | ask r q next => exact Or.inr ⟨a, r, q, next, rfl, rfl, rfl⟩

theorem ownCourse_cons_self {a : String} {x : Exchange Runner} {turns : List Turn} :
    ownCourse i (⟨i, a, x⟩ :: turns) = x :: ownCourse i turns := by
  rw [ownCourse, List.filter_cons_of_pos (by simp)]
  rfl

theorem ownCourse_cons_of_ne {j : Nat} (h : j ≠ i) {a : String} {x : Exchange Runner}
    {turns : List Turn} : ownCourse i (⟨j, a, x⟩ :: turns) = ownCourse i turns := by
  rw [ownCourse, List.filter_cons_of_neg (by simpa using h)]
  rfl

theorem answered_jointCourse :
    Answered s t (jointCourse s t agents order) (interleave s t agents order).1 := by
  induction order generalizing t agents with
  | nil => exact .nil
  | cons index order ih =>
      have hrest : Answered s (stepAgent s t agents index).1
          (jointCourse s (stepAgent s t agents index).1 (stepAgent s t agents index).2 order)
          (interleave s (stepAgent s t agents index).1 (stepAgent s t agents index).2 order).1 := ih
      show Answered s t (jointCourse s t agents (index :: order))
        (interleave s (stepAgent s t agents index).1 (stepAgent s t agents index).2 order).1
      rw [jointCourse]
      rcases stepAgent_cases s t agents index with
        ⟨hturn, hstep⟩ | ⟨a, r, q, next, _, hturn, hstep⟩
      · rw [hstep] at hrest ⊢
        rw [hturn]
        exact hrest
      · rw [hstep] at hrest ⊢
        rw [hturn]
        exact .cons hrest

theorem after_ownCourse {a : Workflow.Agent} {d : Dialogue Runner (Except RunError Unit)}
    (hstands : agents[i]? = some (a, d)) :
    exists d', (interleave s t agents order).2[i]? = some (a, d') ∧
      d.After (ownCourse i (jointCourse s t agents order)) d' := by
  induction order generalizing t agents d with
  | nil => exact ⟨d, hstands, .start d⟩
  | cons index order ih =>
      show exists d', (interleave s (stepAgent s t agents index).1
        (stepAgent s t agents index).2 order).2[i]? = some (a, d') ∧
          d.After (ownCourse i (jointCourse s t agents (index :: order))) d'
      rw [jointCourse]
      rcases stepAgent_cases s t agents index with
        ⟨hturn, hstep⟩ | ⟨b, r, q, next, hmoves, hturn, hstep⟩
      · rw [hturn, hstep]
        exact ih hstands
      · rw [hturn, hstep]
        by_cases h : index = i
        · subst h
          rw [hstands] at hmoves
          rcases Prod.mk.inj (Option.some.inj hmoves) with ⟨rfl, rfl⟩
          have hlength : index < agents.length := (List.getElem?_eq_some_iff.mp hstands).choose
          rcases ih (List.getElem?_set_self hlength) with ⟨d', hd', hafter⟩
          refine ⟨d', hd', ?_⟩
          rw [Option.toList_some, List.singleton_append, ownCourse_cons_self]
          exact .answered _ hafter
        · rcases ih ((List.getElem?_set_ne h).trans hstands) with ⟨d', hd', hafter⟩
          refine ⟨d', hd', ?_⟩
          rw [Option.toList_some, List.singleton_append, ownCourse_cons_of_ne h]
          exact hafter

end

end Colloquy
