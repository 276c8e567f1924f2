import Colloquy.Proofs.Run.Provenance
import Colloquy.Terminal.Conversation

/-!
# Extracts in messages

Snippets get their numbers while a template is rendered, and stand as extracts in the message
that the template makes.  A message of the workflow is made of plain text and of extracts, and
the extracts of all messages are those of the retrievals of the run, in the same order.
-/

namespace Colloquy

open Workflow (Action State)

structure Retrieval where
  snippets : List Snippet
  base : Nat

namespace Retrieval

def numbers (x : Retrieval) : List Nat :=
  Extract.numbers x.base x.snippets.length

def text (x : Retrieval) : String :=
  String.intercalate ("\n" ++ Extract.separator ++ "\n")
    (List.zipWith Extract.body x.numbers (x.snippets.map Snippet.text))

def headings (colored : Bool) (agent : String) (x : Retrieval) : List String :=
  List.zipWith (Terminal.extractHeading colored agent) x.numbers x.snippets

end Retrieval

def Exchange.retrieval? : Exchange σ -> Option Retrieval
  | ⟨_, .number snippets, base⟩ => some ⟨snippets, base⟩
  | _ => none

def Course.retrievals (c : Course σ) : List Retrieval :=
  c.filterMap Exchange.retrieval?

inductive Part where
  | plain (text : String)
  | extracts (x : Retrieval)

namespace Part

def text : Part -> String
  | plain text => text
  | extracts x => x.text

def retrieval? : Part -> Option Retrieval
  | plain _ => none
  | extracts x => some x

end Part

/-- The messages of the workflow are made of parts, and the extracts among these are those of
the retrievals in the course.  Only `pending` stand in no message yet. -/
def Course.Quotes (c : Course σ) (pending : List Retrieval) : Prop :=
  exists written : List (Message × List Part),
    written.map Prod.fst = writtenBy .workflow c ∧
      (forall m parts, (m, parts) ∈ written -> m.text = String.join (parts.map Part.text)) ∧
      retrievals c = written.flatMap (fun x => x.2.filterMap Part.retrieval?) ++ pending

namespace Course

variable {c : Course σ} {x : Exchange σ} {s : σ} {m : Message} {pending : List Retrieval}

theorem retrievals_concat : retrievals (c ++ [x]) = retrievals c ++ x.retrieval?.toList := by
  rw [retrievals, List.filterMap_append]
  cases h : x.retrieval? with
  | none => simp [h, retrievals]
  | some y => simp [h, retrievals]

theorem Quotes.concat (h : Quotes c pending) (happended : x.appended? = none) :
    Quotes (c ++ [x]) (pending ++ x.retrieval?.toList) := by
  rcases h with ⟨written, hmessages, hparts, hretrievals⟩
  refine ⟨written, hmessages.trans (writtenBy_concat happended).symm, hparts, ?_⟩
  rw [retrievals_concat, hretrievals, List.append_assoc]

theorem Quotes.answered (h : Quotes c pending) (hreplied : replied c = true) :
    Quotes (c ++ [.told s (.appended m)]) pending := by
  rcases h with ⟨written, hmessages, hparts, hretrievals⟩
  refine ⟨written, ?_, hparts, ?_⟩
  · rw [writtenBy_workflow_appended, if_pos hreplied, List.append_nil]
    exact hmessages
  · rw [retrievals_concat, hretrievals]
    exact List.append_nil _

theorem Quotes.wrote {parts : List Part} (h : Quotes c (parts.filterMap Part.retrieval?))
    (hsettled : replied c = false) (htext : m.text = String.join (parts.map Part.text)) :
    Quotes (c ++ [.told s (.appended m)]) [] := by
  rcases h with ⟨written, hmessages, hparts, hretrievals⟩
  refine ⟨written ++ [(m, parts)], ?_, ?_, ?_⟩
  · rw [writtenBy_workflow_appended, hsettled, List.map_append, hmessages]
    rfl
  · intro m' parts' hmem
    rcases List.mem_append.mp hmem with hmem | hlast
    · exact hparts m' parts' hmem
    · cases List.mem_singleton.mp hlast
      exact htext
  · rw [retrievals_concat, hretrievals, List.flatMap_append, List.flatMap_singleton,
      List.append_nil]
    exact List.append_nil _

end Course

namespace Runner

open Course

/-- At any time the retrievals stand in messages, but for those of a text under way. -/
def quoting : Law Runner RunError where
  asks c _ _ := exists pending, Quotes c pending
  fails c _ _ := exists pending, Quotes c pending

def Quoted (pending : List Retrieval) (c : Course Runner) (_ : Runner) : Prop :=
  Course.replied c = false ∧ Quotes c pending

def Composed (pending : List Retrieval) (c : Course Runner) (r : Runner) (text : String) : Prop :=
  exists parts : List Part, text = String.join (parts.map Part.text) ∧
    Quoted (pending ++ parts.filterMap Part.retrieval?) c r

section

variable {w : Setting} {c : Course Runner} {r : Runner} {s : State} {pending : List Retrieval}
  {topK : Nat} {reply : String}

theorem Quoted.concat (h : Quoted pending c r) {x : Exchange Runner} (hreply : x.reply? = none)
    (happended : x.appended? = none) :
    Quoted (pending ++ x.retrieval?.toList) (c ++ [x]) r := by
  refine ⟨?_, h.right.concat happended⟩
  rw [replied_concat, hreply]
  rfl

theorem Quoted.silent (h : Quoted pending c r) {x : Exchange Runner} (hreply : x.reply? = none)
    (happended : x.appended? = none) (hretrieval : x.retrieval? = none) :
    Quoted pending (c ++ [x]) r := by
  have hconcat := h.concat hreply happended
  rw [hretrieval] at hconcat
  exact (List.append_nil pending) ▸ hconcat

theorem Composed.single {x : Part} (h : Quoted (pending ++ x.retrieval?.toList) c r) :
    Composed pending c r x.text := by
  refine ⟨[x], ?_, ?_⟩
  · simp
  · cases x with
    | plain => exact h
    | extracts => exact h

theorem Composed.plain (h : Quoted pending c r) (text : String) : Composed pending c r text :=
  Composed.single (x := .plain text) ((List.append_nil pending).symm ▸ h)

theorem quoting_call {f : Function} (h : Quoted pending c r) :
    quoting.Holds c r (Template.Renderer.call ⟨.service, topK⟩ reply f)
      (Composed pending) := by
  unfold Template.Renderer.call
  split
  · rename_i body _
    cases f with
    | python =>
        refine Law.holds_bind.mpr (Law.holds_execute.mpr ⟨⟨pending, h.right⟩, ?_, ?_⟩)
        · intro outcome
          exact Composed.plain (h.silent rfl rfl rfl) _
        · intro e
          exact ⟨_, h.right.concat rfl⟩
    | rtfm =>
        refine Law.holds_bind.mpr (Law.holds_search.mpr ⟨⟨pending, h.right⟩, ?_, ?_⟩)
        · intro snippets
          have hfound := h.silent (x := ⟨r, .search body topK, .ok snippets⟩) rfl rfl rfl
          split
          · exact Composed.plain hfound _
          · refine Law.holds_bind.mpr (Law.holds_number.mpr ⟨⟨pending, hfound.right⟩, ?_⟩)
            intro base
            exact Composed.single (x := .extracts ⟨snippets, base⟩) (hfound.concat rfl rfl)
        · intro e
          exact ⟨_, h.right.concat rfl⟩
  · exact Composed.plain h _

theorem quoting_segments {segments : List Segment} (h : Quoted pending c r) :
    quoting.Holds c r (Template.Renderer.segments ⟨.service, topK⟩ reply segments)
      (Composed pending) := by
  -- Each segment adds a part to the text.
  induction segments generalizing c r pending with
  | nil => exact ⟨[], rfl, (List.append_nil pending).symm ▸ h⟩
  | cons segment rest ih =>
      have hfirst : quoting.Holds c r
          (Template.Renderer.segment ⟨.service, topK⟩ reply segment) (Composed pending) := by
        cases segment with
        | text t => exact Composed.plain h t
        | call f => exact quoting_call h
      refine Law.holds_bind.mpr (hfirst.mono ?_)
      rintro c r first ⟨parts, rfl, h⟩
      refine Law.holds_bind.mpr ((ih h).mono ?_)
      rintro c r _ ⟨more, rfl, h⟩
      refine ⟨parts ++ more, ?_, ?_⟩
      · rw [List.map_append, String.join_append]
      · rw [List.filterMap_append, ← List.append_assoc]
        exact h

theorem quoting_request (h : Quoted pending c r) :
    quoting.Holds c r (request w s) fun c r _ => Quoted pending c r := by
  apply Law.holds_request
  · intro _
    exact ⟨pending, h.right⟩
  · exact ⟨pending, h.right⟩
  · intro e
    exact ⟨_, h.right.concat rfl⟩
  · intro reply
    have hasked : Quotes (c ++ [asked w s r (.ok reply)]) pending :=
      (List.append_nil pending) ▸ h.right.concat rfl
    exact ⟨⟨pending, hasked⟩, replied_concat, hasked.answered replied_concat⟩

theorem quoting_render {t : Template} (h : Quoted [] c r) :
    quoting.Holds c r (render w s t) (Composed []) := by
  have hread : forall {c : Course Runner} {r : Runner}, Quoted [] c r -> quoting.Holds c r (do
      let r <- Act.get
      let reply := (Transcript.lastReply? r.transcript).map Message.text
      Template.Renderer.render ⟨.service, w.options.topK⟩ t reply) (Composed []) :=
    fun h => Law.holds_bind.mpr (quoting_segments h)
  unfold render
  split
  · exact Law.holds_bind.mpr ((Law.holds_observe_of (p := Quoted []) quoting_request
      (fun h _ _ => h) h).mono fun _ _ _ => hread)
  · exact hread h

theorem enduring_quoting : quoting.Enduring w (Quoted []) (Composed []) where
  told := by
    intro c r event h hevent
    refine ⟨⟨[], h.right⟩, h.silent rfl ?_ rfl⟩
    cases event with
    | appended m => exact (hevent m rfl).elim
    | entered => rfl
    | judged => rfl
    | branched => rfl
    | went => rfl
  rendered := fun _ _ h => quoting_render h
  appended := by
    rintro c r m ⟨parts, htext, hsettled, hquotes⟩
    exact ⟨⟨_, hquotes⟩, replied_concat, hquotes.wrote hsettled htext⟩
  requested := fun _ h => quoting_request h
  moved := fun h _ _ => h
  stops := fun _ h _ => ⟨[], h.right⟩

/-- In a course of a run the retrievals stand in messages; only those of a text that was never
written do not, and a run that has succeeded has written all. -/
theorem quotes_of_run {d : Dialogue Runner (Except RunError Unit)} (hafter : (run w).After c d) :
    exists pending, Quotes c pending ∧ forall r, d = .done r (.ok ()) -> pending = [] := by
  have hquoted : Quoted [] [] ({} : Runner) :=
    ⟨rfl, [], rfl, fun _ _ h => (List.not_mem_nil h).elim, rfl⟩
  have hrun : (run w).Keeps quoting.asks (fun c _ result => exists pending, Quotes c pending ∧
      (result = .ok () -> pending = [])) [] := by
    apply Law.keeps_run (enduring_quoting.drive hquoted)
    · intro c r h
      exact ⟨[], h.right, fun _ => rfl⟩
    · intro c r e h
      rcases h with ⟨pending, h⟩
      exact ⟨pending, h, fun hok => by cases hok⟩
  have hrest := hrun.after hafter
  cases d with
  | done r result =>
      rcases hrest with ⟨pending, h, hwritten⟩
      refine ⟨pending, h, fun r' hdone => hwritten ?_⟩
      cases hdone
      rfl
  | ask r q next =>
      rcases hrest.left with ⟨pending, h⟩
      exact ⟨pending, h, fun _ hdone => by cases hdone⟩

end

end Runner
end Colloquy
