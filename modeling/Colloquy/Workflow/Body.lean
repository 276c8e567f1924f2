import Colloquy.Message
import Colloquy.Workflow.Error
import Colloquy.Yaml.Value

/-!
# Bodies of clauses and messages

The bodies are mappings with known fields.  Entries are taken in order, so that the
first malformed one is reported, and missing fields come last.  Tags around a value do
not count, except that a role or an importance may be written as a tag on nothing.
-/

namespace Colloquy
namespace Workflow

open Yaml (Value)

/-- A floating-point number as it is shown: with a point, unless it is no finite
number. -/
def floatText (x : Float) : String :=
  if x.isNaN then "NaN"
  else if x.isInf then (if x < 0.0 then "-inf" else "inf")
  else
    let sign := if x.toBits >= 0x8000000000000000 then "-" else ""
    if x == 0.0 then sign ++ "0.0"
    else
      let text := (Decimal.shortest x.abs).positional
      sign ++ text ++ (if text.contains '.' then "" else ".0")

def found : Value -> Found
  | .null => .null
  | .bool b => .bool b
  | .int i => .int i
  | .float x => .float (floatText x)
  | .string s => .string s
  | .sequence _ => .sequence
  | .mapping _ => .mapping
  | .tagged _ v => found v

namespace Body

abbrev Read (α : Type) := Value -> Except BodyError α

def text : Read String := fun v =>
  match v.untagged with
  | .string s => .ok s
  | v => .error (.wrongKind (found v) "a string")

def list : Read (List Value) := fun v =>
  match v.untagged with
  | .sequence items => .ok items
  | .null => .ok []
  | v => .error (.wrongKind (found v) "a sequence")

def optional (read : Read α) : Read (Option α) := fun v =>
  match v with
  | .null => .ok none
  | v => (read v).map some

/-- A whole number below 2 ^ 32. -/
def count : Read Nat := fun v =>
  match v.untagged with
  | .int i =>
      if 0 <= i && i < Int.pow 2 32 then .ok i.toNat else .error (.wrongValue (.int i) "u32")
  | v => .error (.wrongKind (found v) "u32")

def variantName : Read String := fun v =>
  match v with
  | .string s => .ok s
  | .tagged tag _ => .ok tag
  | v => .error (.wrongKind (found v) "a Value::Tagged enum")

/-- A tag that names a variant stands on nothing. -/
def variantContent : Read Unit := fun v =>
  match v with
  | .tagged _ inner =>
      match inner.untagged with
      | .null => .ok ()
      | inner => .error (.wrongKind (found inner) "unit")
  | _ => .ok ()

def variant (known : List String) (ofName? : String -> Option α) : Read α := fun v => do
  let name <- variantName v
  match ofName? name with
  | none => throw (.unknownVariant name known)
  | some a =>
      variantContent v
      return a

def role : Read Role :=
  variant ["system", "user", "assistant"] Role.ofName?

def importance : Read Importance :=
  variant ["low", "medium", "high"] Importance.ofName?

def fieldName : Read String := fun v =>
  match v.untagged with
  | .string s => .ok s
  | v => .error (.wrongKind (found v) "field identifier")

/-- The entries of a body; nothing stands for a body without entries. -/
def entries (wanted : String) : Read (List (Value × Value)) := fun v =>
  match v.untagged with
  | .mapping es => .ok es
  | .null => .ok []
  | v => .error (.wrongKind (found v) wanted)

end Body

/-- Reads the entries of a body one after the other, into a record of the fields that
have been seen. -/
def readFields (known : List String) (put : β -> String -> Value -> Except BodyError β) :
    List String -> β -> List (Value × Value) -> Except BodyError β
  | _, b, [] => .ok b
  | seen, b, (k, v) :: rest => do
      let name <- Body.fieldName k
      if !known.contains name then
        throw (.unknownField name known)
      if seen.contains name then
        throw (.duplicateField name)
      let b <- put b name v
      readFields known put (name :: seen) b rest

structure IfBody where
  contains : Option String := none
  pattern : Option String := none
  action : List Value := []

namespace IfBody

def put (b : IfBody) (name : String) (v : Value) : Except BodyError IfBody := do
  if name == "contains" then
    let s <- Body.optional Body.text v
    return { b with contains := s }
  else if name == "matches" then
    let s <- Body.optional Body.text v
    return { b with pattern := s }
  else
    let vs <- Body.list v
    return { b with action := vs }

def ofValue (v : Value) : Except BodyError IfBody := do
  let es <- Body.entries "struct IfDocument" v
  readFields ["contains", "matches", "action"] put [] {} es

end IfBody

structure DefaultBody where
  action : List Value := []

namespace DefaultBody

def put (_ : DefaultBody) (_ : String) (v : Value) : Except BodyError DefaultBody := do
  let vs <- Body.list v
  return { action := vs }

def ofValue (v : Value) : Except BodyError DefaultBody := do
  let es <- Body.entries "struct DefaultDocument" v
  readFields ["action"] put [] {} es

end DefaultBody

structure MessageBody where
  text : String
  role : Option Role := none
  importance : Option Importance := none
  ttl : Option Nat := none

namespace MessageBody

/-- The fields seen so far, of which the text may be missing still. -/
structure Partial where
  text : Option String := none
  role : Option Role := none
  importance : Option Importance := none
  ttl : Option Nat := none

def put (b : Partial) (name : String) (v : Value) : Except BodyError Partial := do
  if name == "text" then
    let s <- Body.text v
    return { b with text := some s }
  else if name == "role" then
    let r <- Body.optional Body.role v
    return { b with role := r }
  else if name == "importance" then
    let i <- Body.optional Body.importance v
    return { b with importance := i }
  else
    let n <- Body.optional Body.count v
    return { b with ttl := n }

def ofEntries (es : List (Value × Value)) : Except BodyError MessageBody := do
  let b <- readFields ["text", "role", "importance", "ttl"] put [] {} es
  match b.text with
  | some text =>
      return { text := text, role := b.role, importance := b.importance, ttl := b.ttl }
  | none => throw (.missingField "text")

end MessageBody
end Workflow
end Colloquy
