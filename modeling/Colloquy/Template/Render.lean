import Colloquy.Block
import Colloquy.Dialogue
import Colloquy.Snippet.Extract
import Colloquy.Template

/-!
# Rendering templates

The calls of a template are resolved from left to right.  Each takes the block with
its tag out of the latest reply and hands the body to its service.  A reply without
such a block, a search without a hit and a script that fails become text for the model
to read; only the failure of a service ends the rendering.
-/

namespace Colloquy
namespace Function

def missingBlock : Function -> String
  | python => "Your message did not contain a Python code block."
  | rtfm => "Your message did not contain an rtfm block."

def hint : Function -> String
  | python =>
      "To run code, put it between a line containing only \x60$$$python\x60 and a line " ++
        "containing only \x60$$$\x60."
  | rtfm =>
      "To search the documentation, put your query between a line containing only " ++
        "\x60$$$rtfm\x60 and a line containing only \x60$$$\x60."

/-- What the model reads when its reply has no block to work on. -/
def correction (f : Function) (failure : Extraction) : String :=
  match failure with
  | .unterminated =>
      f.missingBlock ++ " A line opening a \x60" ++ f.name ++
        "\x60 block was found, but no closing \x60$$$\x60 line followed it. " ++ f.hint
  | _ => f.missingBlock ++ " " ++ f.hint

/-- What the model reads when a search has no hit. -/
def noExtracts : String :=
  "No extracts matched your query. Try rephrasing it with different keywords."

end Function

namespace Template

/-- How rendering may be done: for which failures, with how many snippets to a search. -/
structure Renderer (ε : Type) where
  wrap : ServiceError -> ε
  topK : Nat

namespace Renderer

def python (r : Renderer ε) (source : String) : Act σ ε String := do
  let outcome <- Act.execute r.wrap source
  return outcome.text

def rtfm (r : Renderer ε) (query : String) : Act σ ε String := do
  let snippets <- Act.search r.wrap query r.topK
  if snippets.isEmpty then return Function.noExtracts
  else
    let base <- Act.number snippets
    return Extract.render base snippets

/-- The text that a call stands for, given the latest reply. -/
def call (r : Renderer ε) (reply : String) (f : Function) : Act σ ε String :=
  match Extraction.ofText reply f.name with
  | .found body =>
      match f with
      | .python => r.python body
      | .rtfm => r.rtfm body
  | failure => pure (f.correction failure)

def segment (r : Renderer ε) (reply : String) : Segment -> Act σ ε String
  | .text t => pure t
  | .call f => r.call reply f

def segments (r : Renderer ε) (reply : String) : List Segment -> Act σ ε String
  | [] => pure ""
  | s :: rest => do
      let first <- r.segment reply s
      let more <- r.segments reply rest
      return first ++ more

/-- The text of a template, given the latest reply if there is one. -/
def render (r : Renderer ε) (t : Template) (reply : Option String) : Act σ ε String :=
  r.segments (reply.getD "") t.segments

end Renderer
end Template
end Colloquy
