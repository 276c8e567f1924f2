import Colloquy.Command.Execute
import Colloquy.Proofs.Dialogue.Comparison
import Colloquy.Proofs.FrontEnd.Numbering

/-!
# Conversations and screens

A front end answers one question, that for the number of the first extract, and it gives the
same number on every screen.  Where a conversation is shown therefore makes no difference to it,
whichever steps the agents take and however many extracts they read.
-/

namespace Colloquy

open Comparison (Answers)
open Workflow (Agent Program)

/-!
# Surroundings that answer alike

A dialogue cannot tell two surroundings apart that answer it alike, and neither can the agents
of a program.
-/

theorem Dialogue.play_of_answers {alike : τ -> τ' -> Prop} {answer : Answerer τ}
    {answer' : Answerer τ'} {t : τ} {t' : τ'} {d : Dialogue σ α}
    (h : Answers Eq alike answer answer') (ht : alike t t') :
    (d.play answer t).2 = (d.play answer' t').2 ∧
      alike (d.play answer t).1 (d.play answer' t').1 := by
  induction d generalizing t t' with
  | done s a => exact ⟨rfl, ht⟩
  | ask s q next ih =>
      rcases hr : answer t q with ⟨reply, u⟩
      rcases hr' : answer' t' q with ⟨reply', u'⟩
      have hasked := h.asked t t' q ht
      rw [hr, hr'] at hasked
      rcases hasked with ⟨rfl, hu⟩
      rw [play_ask hr, play_ask hr']
      exact ih reply hu

theorem interleave_cons {s : Surroundings τ} {t : τ} {agents : List UnderWay} {index : Nat}
    {order : List Nat} : interleave s t agents (index :: order) =
      interleave s (stepAgent s t agents index).1 (stepAgent s t agents index).2 order :=
  rfl

section

variable {alike : τ -> τ' -> Prop} {s : Surroundings τ} {s' : Surroundings τ'} {t : τ} {t' : τ'}
  {o : Options}

variable (h : forall name, Answers Eq alike (s name) (s' name))

include h

theorem stepAgent_of_answers (ht : alike t t') (agents : List UnderWay) (index : Nat) :
    turn? s t agents index = turn? s' t' agents index ∧
      (stepAgent s t agents index).2 = (stepAgent s' t' agents index).2 ∧
      alike (stepAgent s t agents index).1 (stepAgent s' t' agents index).1 := by
  unfold turn? stepAgent
  cases agents[index]? with
  | none => exact ⟨rfl, rfl, ht⟩
  | some x =>
      rcases x with ⟨a, d⟩
      cases d with
      | done r result => exact ⟨rfl, rfl, ht⟩
      | ask r q next =>
          rcases (h a.name).asked t t' q ht with ⟨hanswer, hmemory⟩
          dsimp only
          rw [hanswer]
          exact ⟨rfl, rfl, hmemory⟩

theorem interleave_of_answers (ht : alike t t') (agents : List UnderWay) (order : List Nat) :
    jointCourse s t agents order = jointCourse s' t' agents order ∧
      (interleave s t agents order).2 = (interleave s' t' agents order).2 ∧
      alike (interleave s t agents order).1 (interleave s' t' agents order).1 := by
  induction order generalizing t t' agents with
  | nil => exact ⟨rfl, rfl, ht⟩
  | cons index order ih =>
      rcases stepAgent_of_answers h ht agents index with ⟨hturn, hagents, hmemory⟩
      have hrest := ih hmemory (stepAgent s t agents index).2
      rw [interleave_cons, interleave_cons, jointCourse, jointCourse, hturn, ← hagents,
        hrest.left]
      exact ⟨rfl, hrest.right⟩

theorem runAgent_of_answers (ht : alike t t') (a : Agent) :
    (runAgent s o t a).2 = (runAgent s' o t' a).2 ∧
      alike (runAgent s o t a).1 (runAgent s' o t' a).1 := by
  rcases Dialogue.play_of_answers (d := Runner.run ⟨a, o⟩) (h a.name) ht with ⟨hplay, hmemory⟩
  exact ⟨congrArg (fun e : Runner × Except RunError Unit => Finished.mk a e.1 e.2) hplay, hmemory⟩

theorem runAgents_of_answers (ht : alike t t') (agents : List Agent) :
    (runAgents s o t agents).2 = (runAgents s' o t' agents).2 ∧
      alike (runAgents s o t agents).1 (runAgents s' o t' agents).1 := by
  induction agents generalizing t t' with
  | nil => exact ⟨rfl, ht⟩
  | cons a rest ih =>
      rcases runAgent_of_answers (o := o) h ht a with ⟨hfirst, hmemory⟩
      have hrest := ih hmemory
      exact ⟨congrArg₂ List.cons hfirst hrest.left, hrest.right⟩

end

/-!
# Screens

What a front end answers depends on its next number and not on its screen, and what it prints
does not change this number.
-/

theorem FrontEnd.next_tell {f : FrontEnd} {agent : String} {event : Event} :
    (f.tell agent event).next = f.next := by
  unfold tell
  split
  · exact next_print
  · rfl

def SameNumbers (u u' : τ × FrontEnd) : Prop :=
  u.1 = u'.1 ∧ u.2.next = u'.2.next

theorem answers_surroundings (s : Services τ) (agent : String) :
    Answers Eq SameNumbers (s.surroundings agent) (s.surroundings agent) := by
  have hasked : forall (u u' : τ × FrontEnd) q, SameNumbers u u' ->
      (s.surroundings agent u q).1 = (s.surroundings agent u' q).1 ∧
        SameNumbers (s.surroundings agent u q).2 (s.surroundings agent u' q).2 := by
    rintro ⟨t, f⟩ ⟨_, f'⟩ q ⟨rfl, hnext⟩
    cases q with
    | complete model context => exact ⟨rfl, rfl, hnext⟩
    | search text limit => exact ⟨rfl, rfl, hnext⟩
    | execute source => exact ⟨rfl, rfl, hnext⟩
    | number snippets =>
        have hsame : f.next = f'.next := hnext
        refine ⟨?_, rfl, ?_⟩
        · show (f.print _).next = (f'.print _).next
          rw [FrontEnd.next_print, FrontEnd.next_print, hsame]
        · show ((f.print _).next + _) % _ = ((f'.print _).next + _) % _
          rw [FrontEnd.next_print, FrontEnd.next_print, hsame]
    | tell event =>
        refine ⟨rfl, rfl, ?_⟩
        show (f.tell agent event).next = (f'.tell agent event).next
        rw [FrontEnd.next_tell, FrontEnd.next_tell]
        exact hnext
  refine ⟨hasked, ?_⟩
  rintro u u' model context _ hu rfl
  exact hasked u u' _ hu

/-- Where a conversation is shown makes no difference to it.  Whatever the services answer, and
in whatever order the agents take their steps, the same questions are asked and answered on every
screen, each with the runner in the same state; every agent is left in the same place, with the
same transcript, the same counts and the same result once it is done; and so is what the services
remember.  The reports are the same when the agents run one after the other.  A command that runs
them fails alike with and without colour, output in between or a record, and prints the same
record. -/
theorem conversation_same_on_every_screen (s : Services τ) (t : τ) (o : Options) (p : Program)
    (screen screen' : Screen) :
    (forall order : List Nat,
      let shown := interleave s.surroundings (t, { screen := screen }) (start o p) order
      let shown' := interleave s.surroundings (t, { screen := screen' }) (start o p) order
      jointCourse s.surroundings (t, { screen := screen }) (start o p) order =
          jointCourse s.surroundings (t, { screen := screen' }) (start o p) order ∧
        shown.2 = shown'.2 ∧ shown.1.1 = shown'.1.1) ∧
      (let finished := runAgents s.surroundings o (t, { screen := screen }) p.agents
      let finished' := runAgents s.surroundings o (t, { screen := screen' }) p.agents
      finished.2 = finished'.2 ∧ finished.1.1 = finished'.1.1 ∧
        finished.2.map Finished.report = finished'.2.map Finished.report) ∧
      forall (c : Command.Context τ) (config : Configuration) (path : String) (provider : Provider)
        (colored colored' json json' quiet quiet' : Bool),
        let result := Command.runProgram c t config colored json quiet path provider s p
        let result' := Command.runProgram c t config colored' json' quiet' path provider s p
        result.failure = result'.failure ∧
          (json = true -> json' = true -> result.out = result'.out) := by
  have hsame : forall screen screen' : Screen,
      SameNumbers (t, ({ screen := screen } : FrontEnd)) (t, { screen := screen' }) :=
    fun _ _ => ⟨rfl, rfl⟩
  have hrun : forall (o : Options) (screen screen' : Screen),
      (runAgents s.surroundings o (t, { screen := screen }) p.agents).2 =
          (runAgents s.surroundings o (t, { screen := screen' }) p.agents).2 ∧
        (runAgents s.surroundings o (t, { screen := screen }) p.agents).1.1 =
          (runAgents s.surroundings o (t, { screen := screen' }) p.agents).1.1 := by
    intro o screen screen'
    rcases runAgents_of_answers (o := o) (answers_surroundings s) (hsame screen screen')
      p.agents with ⟨hagents, hmemory⟩
    exact ⟨hagents, hmemory.left⟩
  refine ⟨?_, ?_, ?_⟩
  · intro order
    rcases interleave_of_answers (answers_surroundings s) (hsame screen screen') (start o p)
      order with ⟨hcourse, hagents, hmemory⟩
    exact ⟨hcourse, hagents, hmemory.left⟩
  · rcases hrun o screen screen' with ⟨hagents, hmemory⟩
    exact ⟨hagents, hmemory, congrArg (List.map Finished.report) hagents⟩
  · intro c config path provider colored colored' json json' quiet quiet'
    rcases hrun config.options (if quiet || json then .silent else .terminal colored)
      (if quiet' || json' then .silent else .terminal colored') with ⟨hagents, hmemory⟩
    dsimp only [Command.runProgram]
    rw [hagents, hmemory]
    refine ⟨rfl, ?_⟩
    rintro rfl rfl
    rfl

end Colloquy
