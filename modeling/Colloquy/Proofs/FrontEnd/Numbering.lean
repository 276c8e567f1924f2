import Colloquy.FrontEnd
import Colloquy.Proofs.Run.Extracts
import Colloquy.Proofs.Run.Joint

/-!
# Numbers of extracts

All agents draw the numbers of their extracts from one counter.  As long as the counter does
not run over, the numbers of one retrieval begin where those of the one before end, whoever
retrieves.  The user sees the numbers that the model reads.
-/

namespace Colloquy

open Workflow (Agent Program)

/-- What is printed on a terminal for an exchange. -/
def Turn.shown (colored : Bool) (x : Turn) : String :=
  match x.exchange.retrieval?, x.exchange.appended? with
  | some retrieval, _ => String.join (retrieval.headings colored x.agent)
  | none, some m => Terminal.message colored x.agent m
  | none, none => ""

def Screen.shown : Screen -> List Turn -> String
  | .silent, _ => ""
  | .terminal colored, turns => String.join (turns.map (Turn.shown colored))

def retrievals (turns : List Turn) : List Retrieval :=
  turns.filterMap fun x => x.exchange.retrieval?

def snippetCount (turns : List Turn) : Nat :=
  ((retrievals turns).flatMap Retrieval.snippets).length

/-- Each snippet has one number, under which it is told, letter for letter: to the model in an
extract, and to the user in a line that is plain or coloured. -/
structure Retrieval.IsTold (x : Retrieval) (agent : String) : Prop where
  numbered : x.numbers.length = x.snippets.length
  read : x.text = String.intercalate "\n-----\n" (List.zipWith (fun n s =>
    "Extract #" ++ toString n ++ ":\n\n" ++ s.text) x.numbers x.snippets)
  seen : forall colored, x.headings colored agent = List.zipWith (fun n s =>
    let title := "[" ++ agent ++ "] Extract #" ++ toString n
    let place := s.source ++ " (pages " ++ toString s.firstPage ++ "-" ++ toString s.lastPage ++
      ", offset " ++ toString s.start ++ ")"
    if colored then
      "  \x1b[1m\x1b[33m" ++ title ++ "\x1b[39m\x1b[0m \x1b[2m" ++ place ++ "\x1b[0m\n"
    else "  " ++ title ++ " " ++ place ++ "\n") x.numbers x.snippets

theorem Extract.numbers_eq_range' {base count : Nat} (h : base + count <= Nat.pow 2 64) :
    numbers base count = List.range' base count := by
  rw [numbers, List.range'_eq_map_range]
  apply List.map_congr_left
  intro offset hoffset
  have hlt := List.mem_range.mp hoffset
  rw [number, lastNumber]
  omega

section

variable {s : Services τ} {t : τ} {f : FrontEnd} {turns : List Turn} {u : τ × FrontEnd}
  {i : Nat} {a : String} {r : Runner} {q : Query}

theorem retrievals_cons_some {x : Turn} {y : Retrieval} (h : x.exchange.retrieval? = some y) :
    retrievals (x :: turns) = y :: retrievals turns :=
  List.filterMap_cons_some (f := fun x : Turn => x.exchange.retrieval?) h

theorem retrievals_cons_none {x : Turn} (h : x.exchange.retrieval? = none) :
    retrievals (x :: turns) = retrievals turns :=
  List.filterMap_cons_none (f := fun x : Turn => x.exchange.retrieval?) h

theorem snippetCount_cons_some {x : Turn} {y : Retrieval} (h : x.exchange.retrieval? = some y) :
    snippetCount (x :: turns) = y.snippets.length + snippetCount turns := by
  rw [snippetCount, retrievals_cons_some h, List.flatMap_cons, List.length_append]
  rfl

theorem snippetCount_cons_none {x : Turn} (h : x.exchange.retrieval? = none) :
    snippetCount (x :: turns) = snippetCount turns := by
  rw [snippetCount, retrievals_cons_none h]
  rfl

/-!
# What is told of a retrieval

The texts are written out here and do not rest on the functions that make them.
-/

theorem Terminal.paint_bold_yellow {text : String} : paint true [.yellow, .bold] text =
    "\x1b[1m\x1b[33m" ++ text ++ "\x1b[39m\x1b[0m" := by
  have hfirst : Style.sequence 1 ++ Style.sequence 33 = "\x1b[1m\x1b[33m" := by decide
  have hlast : Style.sequence 39 ++ Style.sequence 0 = "\x1b[39m\x1b[0m" := by decide
  rw [← hfirst, ← hlast]
  simp [paint, Style.apply, Style.start, Style.stop, String.append_assoc]

theorem Terminal.paint_dimmed {text : String} :
    paint true [.dimmed] text = "\x1b[2m" ++ text ++ "\x1b[0m" := by
  have hfirst : Style.sequence 2 = "\x1b[2m" := by decide
  have hlast : Style.sequence 0 = "\x1b[0m" := by decide
  rw [← hfirst, ← hlast]
  rfl

theorem Retrieval.isTold (x : Retrieval) (agent : String) : x.IsTold agent := by
  constructor
  · rw [numbers, Extract.numbers, List.length_map, List.length_range]
  · rw [text, List.zipWith_map_right]
    rfl
  · intro colored
    rw [headings]
    congr
    funext n s
    apply String.toList_inj.mp
    cases colored with
    | false => simp [Terminal.extractHeading, Terminal.paint, Terminal.agentLabel, Terminal.place]
    | true =>
        simp [Terminal.extractHeading, Terminal.paint_bold_yellow, Terminal.paint_dimmed,
          Terminal.agentLabel, Terminal.place]

/-!
# Steps of a front end

Only a retrieval sets numbers aside, and it leaves the next number right behind them.
-/

def Screen.render : Screen -> (Bool -> String) -> String
  | .silent, _ => ""
  | .terminal colored, text => text colored

@[simp] theorem FrontEnd.next_print {text : Bool -> String} : (f.print text).next = f.next := by
  unfold print
  cases f.screen with
  | silent => rfl
  | terminal colored => rfl

@[simp] theorem FrontEnd.screen_print {text : Bool -> String} :
    (f.print text).screen = f.screen := by
  unfold print
  cases h : f.screen with
  | silent => exact h
  | terminal colored => rfl

@[simp] theorem FrontEnd.printed_print {text : Bool -> String} :
    (f.print text).printed = f.printed ++ f.screen.render text := by
  unfold print
  cases f.screen with
  | silent => exact String.append_empty.symm
  | terminal colored => rfl

/-- A question sets numbers aside for snippets, or shows a message, or leaves the front end
alone. -/
theorem surroundings_cases (s : Services τ) (t : τ) (f : FrontEnd) (a : String) (r : Runner)
    (q : Query) :
    let x : Exchange Runner := ⟨r, q, (s.surroundings a (t, f) q).1⟩
    let f' := (s.surroundings a (t, f) q).2.2
    (exists snippets, x.retrieval? = some ⟨snippets, f.next⟩ ∧ f' = (f.number a snippets).2) ∨
      (exists m, x.retrieval? = none ∧ x.appended? = some m ∧ f' = f.tell a (.appended m)) ∨
      x.retrieval? = none ∧ x.appended? = none ∧ f' = f := by
  cases q with
  | number snippets =>
      refine Or.inl ⟨snippets, ?_, rfl⟩
      show some (Retrieval.mk snippets (f.print _).next) = _
      rw [FrontEnd.next_print]
  | complete => exact Or.inr (Or.inr ⟨rfl, rfl, rfl⟩)
  | search => exact Or.inr (Or.inr ⟨rfl, rfl, rfl⟩)
  | execute => exact Or.inr (Or.inr ⟨rfl, rfl, rfl⟩)
  | tell event =>
      cases event with
      | appended m => exact Or.inr (Or.inl ⟨m, rfl, rfl, rfl⟩)
      | entered => exact Or.inr (Or.inr ⟨rfl, rfl, rfl⟩)
      | judged => exact Or.inr (Or.inr ⟨rfl, rfl, rfl⟩)
      | branched => exact Or.inr (Or.inr ⟨rfl, rfl, rfl⟩)
      | went => exact Or.inr (Or.inr ⟨rfl, rfl, rfl⟩)

theorem next_surroundings (s : Services τ) (t : τ) (f : FrontEnd) (a : String) (r : Runner)
    (q : Query) :
    (exists snippets, (⟨r, q, (s.surroundings a (t, f) q).1⟩ : Exchange Runner).retrieval? =
        some ⟨snippets, f.next⟩ ∧
      (s.surroundings a (t, f) q).2.2.next = (f.next + snippets.length) % Nat.pow 2 64) ∨
    ((⟨r, q, (s.surroundings a (t, f) q).1⟩ : Exchange Runner).retrieval? = none ∧
      (s.surroundings a (t, f) q).2.2.next = f.next) := by
  rcases surroundings_cases s t f a r q with
    ⟨snippets, hretrieval, hf⟩ | ⟨m, hnone, _, hf⟩ | ⟨hnone, _, hf⟩
  · refine Or.inl ⟨snippets, hretrieval, ?_⟩
    rw [hf]
    simp only [FrontEnd.number, FrontEnd.next_print]
  · exact Or.inr ⟨hnone, by rw [hf]; exact FrontEnd.next_print⟩
  · exact Or.inr ⟨hnone, by rw [hf]⟩

theorem screen_surroundings :
    (s.surroundings a (t, f) q).2.2.screen = f.screen := by
  rcases surroundings_cases s t f a {} q with ⟨snippets, _, hf⟩ | ⟨m, _, _, hf⟩ | ⟨_, _, hf⟩
  · rw [hf]
    exact FrontEnd.screen_print
  · rw [hf]
    exact FrontEnd.screen_print
  · rw [hf]

theorem Screen.shown_singleton {screen : Screen} {x : Turn} :
    screen.shown [x] = screen.render fun colored => x.shown colored := by
  cases screen with
  | silent => rfl
  | terminal colored => simp [shown, render]

theorem printed_surroundings : (s.surroundings a (t, f) q).2.2.printed =
    f.printed ++ f.screen.shown [⟨i, a, ⟨r, q, (s.surroundings a (t, f) q).1⟩⟩] := by
  rw [Screen.shown_singleton]
  rcases surroundings_cases s t f a r q with
    ⟨snippets, hretrieval, hf⟩ | ⟨m, hnone, hm, hf⟩ | ⟨hnone, hm, hf⟩
  · rw [hf]
    simp only [Turn.shown, hretrieval]
    exact FrontEnd.printed_print
  · rw [hf]
    simp only [Turn.shown, hnone, hm]
    exact FrontEnd.printed_print
  · rw [hf]
    simp only [Turn.shown, hnone, hm]
    cases f.screen with
    | silent => exact String.append_empty.symm
    | terminal colored => exact String.append_empty.symm

/-!
# Any number of steps

The steps are those of any agents in any order: the retrievals of all of them share one row of
numbers.
-/

theorem Screen.shown_cons (screen : Screen) (x : Turn) :
    screen.shown (x :: turns) = screen.shown [x] ++ screen.shown turns := by
  cases screen with
  | silent => rfl
  | terminal colored => simp [Screen.shown]

theorem printed_of_answered (h : Answered s.surroundings (t, f) turns u) :
    u.2.printed = f.printed ++ f.screen.shown turns := by
  generalize hstart : (t, f) = start at h
  induction h generalizing t f with
  | nil =>
      cases hstart
      cases f.screen with
      | silent => exact (String.append_empty).symm
      | terminal colored => exact (String.append_empty).symm
  | @cons _ _ i a r q turns h ih =>
      cases hstart
      rw [Screen.shown_cons, ← String.append_assoc, ← printed_surroundings,
        ← screen_surroundings (s := s) (t := t) (a := a) (q := q)]
      exact ih rfl

/-- The induction over the steps: the retrievals take their numbers one after the other. -/
theorem numbers_of_answered (h : Answered s.surroundings (t, f) turns u)
    (hcount : f.next + snippetCount turns < Nat.pow 2 64) :
    (retrievals turns).flatMap Retrieval.numbers = List.range' f.next (snippetCount turns) := by
  generalize hstart : (t, f) = start at h
  induction h generalizing t f with
  | nil => rfl
  | @cons _ _ i a r q turns h ih =>
      cases hstart
      rcases next_surroundings s t f a r q with
        ⟨snippets, hretrieval, hnext⟩ | ⟨hnone, hnext⟩
      · rw [snippetCount_cons_some hretrieval] at hcount ⊢
        have hfits : f.next + snippets.length + snippetCount turns < Nat.pow 2 64 := by
          rw [Nat.add_assoc]
          exact hcount
        have hlt : f.next + snippets.length < Nat.pow 2 64 :=
          Nat.lt_of_le_of_lt (Nat.le_add_right _ _) hfits
        rw [Nat.mod_eq_of_lt hlt] at hnext
        rw [← hnext] at hfits
        rw [retrievals_cons_some hretrieval, List.flatMap_cons, ← List.range'_append_1, ← hnext]
        congr 1
        · exact Extract.numbers_eq_range' (Nat.le_of_lt hlt)
        · exact ih hfits rfl
      · rw [snippetCount_cons_none hnone] at hcount ⊢
        rw [← hnext] at hcount ⊢
        rw [retrievals_cons_none hnone]
        exact ih hcount rfl

end

/-- As long as fewer than `2 ^ 64 - 1` snippets are retrieved, their extracts are numbered 1, 2,
3 and so on, in the order of the retrievals, whichever agents make them.  A terminal shows a line
for each, and the number in this line is the one in the extract.  When the agents of a program take
their steps in any order, the messages of each hold its extracts, in the order in which it
retrieved them; only those of a text that has not been written are left over, and none of an agent
that is done. -/
theorem extracts_are_numbered_in_order {s : Services τ} {t : τ} {screen : Screen}
    {turns : List Turn} {u : τ × FrontEnd}
    (hanswered : Answered s.surroundings (t, { screen := screen }) turns u)
    (hcount : snippetCount turns < Nat.pow 2 64 - 1) :
    (retrievals turns).flatMap Retrieval.numbers = List.range' 1 (snippetCount turns) ∧
      u.2.printed = screen.shown turns ∧
      (forall (x : Turn) (y : Retrieval), x ∈ turns -> x.exchange.retrieval? = some y ->
        y.IsTold x.agent) ∧
      forall (o : Options) (p : Program) (order : List Nat),
        jointCourse s.surroundings (t, { screen := screen }) (start o p) order = turns ->
        forall (i : Nat) (a : Agent), p.agents[i]? = some a -> exists d pending,
          (interleave s.surroundings (t, { screen := screen }) (start o p) order).2[i]? =
            some (a, d) ∧
          (Runner.run ⟨a, o⟩).After (ownCourse i turns) d ∧
          (ownCourse i turns).Quotes pending ∧
          forall r, d = .done r (.ok ()) -> pending = [] := by
  refine ⟨?_, ?_, ?_, ?_⟩
  · apply numbers_of_answered hanswered
    rw [Nat.add_comm]
    exact Nat.add_lt_of_lt_sub hcount
  · rw [printed_of_answered hanswered]
    exact String.empty_append
  · intro x y _ _
    exact y.isTold x.agent
  · rintro o p order rfl i a ha
    have hstands : (start o p)[i]? = some (a, Runner.run ⟨a, o⟩) := by
      rw [start, List.getElem?_map, ha]
      rfl
    rcases after_ownCourse hstands with ⟨d, hd, hafter⟩
    rcases Runner.quotes_of_run hafter with ⟨pending, hquotes, hwritten⟩
    exact ⟨d, pending, hd, hafter, hquotes, hwritten⟩

def Dialogue.result? : Dialogue σ α -> Option α
  | done _ a => some a
  | ask _ _ _ => none

theorem Dialogue.eq_done_of_result? {d : Dialogue σ α} {a : α} (h : d.result? = some a) :
    exists s, d = done s a := by
  cases d with
  | done s a =>
      cases h
      exact ⟨s, rfl⟩
  | ask => cases h

def readers : Program where
  agents := ["ada", "ben"].map fun name =>
    { name := name
      states := [
        { name := "look"
          conditions := some {
            clauses := [⟨.contains "rtfm", [.message ⟨[.call .rtfm]⟩ .user .medium none, .finish]⟩]
            fallback := [.finish] } }] }

def library : Services Nat where
  complete n _ _ := (.ok (.ofRole .assistant "$$$rtfm\nheat\n$$$"), n)
  search n _ _ := (.ok (if n == 0 then [⟨"a.txt", 0, 1, 1, "Fire."⟩, ⟨"b.txt", 4, 1, 2, "Sun."⟩]
    else [⟨"c.txt", 9, 3, 3, "Sand."⟩]), n + 1)
  execute n _ := (.ok (.completed ""), n)

/-- The first agent searches before the second, and gets its numbers after it. -/
def readersOrder : List Nat :=
  List.replicate 6 0 ++ List.replicate 8 1 ++ List.replicate 2 0

def readersTurns : List Turn :=
  jointCourse library.surroundings (0, { screen := .terminal false }) (start {} readers)
    readersOrder

/-- The second agent reads extract 1, and the first reads extracts 2 and 3. -/
theorem readers_share_numbers :
    (retrievals readersTurns).map Retrieval.numbers = [[1], [2, 3]] ∧
      (retrievals readersTurns).flatMap Retrieval.numbers = List.range' 1 3 ∧
      (interleave library.surroundings (0, { screen := .terminal false }) (start {} readers)
        readersOrder).1.2.printed =
          "[ada] assistant\n    $$$rtfm\n    heat\n    $$$\n\n" ++
          "[ben] assistant\n    $$$rtfm\n    heat\n    $$$\n\n" ++
          "  [ben] Extract #1 c.txt (pages 3-3, offset 9)\n" ++
          "[ben] user     \n    Extract #1:\n    \n    Sand.\n\n" ++
          "  [ada] Extract #2 a.txt (pages 1-1, offset 0)\n" ++
          "  [ada] Extract #3 b.txt (pages 1-2, offset 4)\n" ++
          "[ada] user     \n    Extract #2:\n    \n    Fire.\n    -----\n" ++
          "    Extract #3:\n    \n    Sun.\n\n" ∧
      (forall (x : Turn) (y : Retrieval), x ∈ readersTurns -> x.exchange.retrieval? = some y ->
        y.IsTold x.agent) ∧
      (ownCourse 0 readersTurns).Quotes [] ∧
      (Course.writtenBy .workflow (ownCourse 0 readersTurns)).map Message.text =
        ["Extract #2:\n\nFire.\n-----\nExtract #3:\n\nSun."] := by
  have hcount : snippetCount readersTurns = 3 := by decide +kernel
  have hfew : snippetCount readersTurns < Nat.pow 2 64 - 1 := by
    rw [hcount]
    decide
  have hanswered : Answered library.surroundings (0, { screen := .terminal false }) readersTurns
      (interleave library.surroundings (0, { screen := .terminal false }) (start {} readers)
        readersOrder).1 := answered_jointCourse
  rcases extracts_are_numbered_in_order hanswered hfew with ⟨hnumbers, hprinted, htold, hmessages⟩
  rw [hcount] at hnumbers
  rcases hmessages {} readers readersOrder rfl 0 _ rfl with
    ⟨d, pending, hd, _, hquotes, hwritten⟩
  have hdone : (interleave library.surroundings (0, { screen := .terminal false })
      (start {} readers) readersOrder).2[0]?.bind (fun x => x.2.result?) = some (.ok ()) := by
    decide +kernel
  rw [hd] at hdone
  rcases Dialogue.eq_done_of_result? hdone with ⟨r, hr⟩
  rw [hwritten r hr] at hquotes
  exact ⟨by decide +kernel, hnumbers, hprinted.trans (by decide +kernel), htold, hquotes,
    by decide +kernel⟩

end Colloquy
