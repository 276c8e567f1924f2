import Colloquy.Proofs.Run.Extracts
import Mathlib.Data.List.Forall2

/-!
# Rendering as substitution

Which questions rendering asks is planned by the template and the reply alone, so no answer of a
service leads to another question.  Each call is replaced by the text that its answer stands
for, and this text is not read again.  The first failure of a service ends the rendering.
-/

namespace Colloquy

def Query.isCall : Query -> Bool
  | complete _ _ => true
  | search _ _ => true
  | execute _ => true
  | number _ => false
  | tell _ => false

/-- The snippets that were found, if any were. -/
def Exchange.hits? : Exchange σ -> Option (List Snippet)
  | ⟨_, .search _ _, .ok snippets⟩ => if snippets.isEmpty then none else some snippets
  | _ => none

namespace Course

def calls (c : Course σ) : List Query :=
  (c.map Exchange.query).filter Query.isCall

def hits (c : Course σ) : List (List Snippet) :=
  c.filterMap Exchange.hits?

variable {c c' : Course σ}

theorem hits_append : hits (c ++ c') = hits c ++ hits c' :=
  List.filterMap_append

theorem retrievals_append : retrievals (c ++ c') = retrievals c ++ retrievals c' :=
  List.filterMap_append

end Course

namespace Template.Renderer

open Course

variable {r : Renderer ε} {reply out u : String} {s : σ} {c asked : Course σ} {f : Function}
  {seg : Segment} {segments done rest : List Segment}

/-- The call that a placeholder makes: none if the reply has no block with its tag. -/
def question? (r : Renderer ε) (reply : String) (f : Function) : Option Query :=
  match Extraction.ofText reply f.name with
  | .found body =>
      match f with
      | .python => some (.execute body)
      | .rtfm => some (.search body r.topK)
  | _ => none

inductive Replaces (r : Renderer ε) (reply : String) (s : σ) :
    Segment -> Course σ -> String -> Prop where
  | text (t : String) : Replaces r reply s (.text t) [] t
  | corrected {f : Function}
      (hnone : forall body, Extraction.ofText reply f.name ≠ .found body) :
      Replaces r reply s (.call f) [] (f.correction (Extraction.ofText reply f.name))
  | executed {body : String} (outcome : Script.Outcome)
      (hbody : Extraction.ofText reply Function.python.name = .found body) :
      Replaces r reply s (.call .python) [⟨s, .execute body, .ok outcome⟩] outcome.text
  | missed {body : String} (hbody : Extraction.ofText reply Function.rtfm.name = .found body) :
      Replaces r reply s (.call .rtfm) [⟨s, .search body r.topK, .ok []⟩] Function.noExtracts
  | extracted {body : String} {snippets : List Snippet} (base : Nat)
      (hbody : Extraction.ofText reply Function.rtfm.name = .found body)
      (hne : snippets ≠ []) :
      Replaces r reply s (.call .rtfm)
        [⟨s, .search body r.topK, .ok snippets⟩, ⟨s, .number snippets, base⟩]
        (Extract.render base snippets)

def Rendered (r : Renderer ε) (reply : String) (s : σ) (segments : List Segment) (c : Course σ)
    (out : String) : Prop :=
  exists steps : List (Course σ × String),
    List.Forall₂ (fun seg step => Replaces r reply s seg step.1 step.2) segments steps ∧
      c = steps.flatMap Prod.fst ∧ out = String.join (steps.map Prod.snd)

/-- The segments before a call are replaced, and the call is the last question and fails. -/
def BrokenOff (r : Renderer ε) (reply : String) (s : σ) (segments : List Segment)
    (c : Course σ) (e : ε) : Prop :=
  exists front f back asked out x failure, segments = front ++ .call f :: back ∧
    Rendered r reply s front asked out ∧ r.question? reply f = some x.query ∧ x.state = s ∧
    x.failure? = some failure ∧ c = asked ++ [x] ∧ e = r.wrap failure

/-!
# Steps

The segments that are done have been replaced, and the next one either is replaced, too, or
breaks the rendering off.
-/

theorem Rendered.concat (h : Rendered r reply s segments c out)
    (hseg : Replaces r reply s seg asked u) :
    Rendered r reply s (segments ++ [seg]) (c ++ asked) (out ++ u) := by
  rcases h with ⟨steps, hsteps, rfl, rfl⟩
  refine ⟨steps ++ [(asked, u)], List.rel_append hsteps (.cons hseg .nil), ?_, ?_⟩
  · rw [List.flatMap_append, List.flatMap_singleton]
  · rw [List.map_append, String.join_append]
    simp

def rendering (r : Renderer ε) (reply : String) (s : σ) (segments : List Segment) : Law σ ε where
  asks _ _ _ := True
  fails c s' e := s' = s ∧ BrokenOff r reply s segments c e

theorem Replaces.quiet (h : Replaces r reply s seg c u) : forall x, x ∈ c -> x.failure? = none := by
  cases h with
  | text t => exact List.forall_mem_nil _
  | corrected hnone => exact List.forall_mem_nil _
  | executed outcome hbody => exact List.forall_mem_singleton.mpr rfl
  | missed hbody => exact List.forall_mem_singleton.mpr rfl
  | extracted base hbody hne =>
      exact List.forall_mem_cons.mpr ⟨rfl, List.forall_mem_singleton.mpr rfl⟩

/-- The extracts are numbered once for each search that found something. -/
theorem Replaces.retrievals_eq (h : Replaces r reply s seg c u) :
    (retrievals c).map Retrieval.snippets = hits c := by
  cases h with
  | text t => rfl
  | corrected hnone => rfl
  | executed outcome hbody => rfl
  | missed hbody => rfl
  | @extracted body snippets base hbody hne =>
      have hhits : Exchange.hits? (⟨s, .search body r.topK, .ok snippets⟩ : Exchange σ) =
          some snippets := if_neg fun hempty => hne (List.isEmpty_iff.mp hempty)
      rw [hits, List.filterMap_cons_some hhits]
      rfl

theorem Rendered.quiet (h : Rendered r reply s segments c out) :
    forall x, x ∈ c -> x.failure? = none := by
  rcases h with ⟨steps, hsteps, rfl, -⟩
  induction hsteps with
  | nil => exact List.forall_mem_nil _
  | cons hseg _ ih => exact List.forall_mem_append.mpr ⟨hseg.quiet, ih⟩

theorem Rendered.retrievals_eq (h : Rendered r reply s segments c out) :
    (retrievals c).map Retrieval.snippets = hits c := by
  rcases h with ⟨steps, hsteps, rfl, -⟩
  induction hsteps with
  | nil => rfl
  | cons hseg _ ih =>
      rw [List.flatMap_cons, retrievals_append, hits_append, List.map_append, hseg.retrievals_eq,
        ih]

theorem retrieval?_and_hits?_of_failure {x : Exchange σ} {e : ServiceError}
    (h : x.failure? = some e) : x.retrieval? = none ∧ x.hits? = none := by
  rcases x with ⟨s, q, answer⟩
  cases q with
  | complete => exact ⟨rfl, rfl⟩
  | search text limit =>
      cases answer with
      | ok snippets => cases h
      | error e => exact ⟨rfl, rfl⟩
  | execute => exact ⟨rfl, rfl⟩
  | number => cases h
  | tell => cases h

theorem BrokenOff.retrievals_eq {e : ε} (h : BrokenOff r reply s segments c e) :
    (retrievals c).map Retrieval.snippets = hits c := by
  rcases h with ⟨front, f, back, asked, out, x, failure, _, hfront, _, _, hfailure, rfl, _⟩
  rcases retrieval?_and_hits?_of_failure hfailure with ⟨hretrieval, hhits⟩
  rw [retrievals_append, hits_append, List.map_append, hfront.retrievals_eq, retrievals, hits,
    hits, List.filterMap_cons_none hretrieval, List.filterMap_cons_none hhits]
  rfl

end Template.Renderer
end Colloquy
