/-!
# Message templates

A template is literal text with calls such as `{python()}` in it.  Reading finds
the placeholders from left to right; braces that do not form a placeholder are
literal text, and a placeholder must name a known function.  Writing the segments
one after the other gives the source back.
-/

namespace Colloquy

/-- The functions that a template may call. -/
inductive Function where
  | python
  | rtfm
deriving DecidableEq, Repr

namespace Function

def name : Function -> String
  | python => "python"
  | rtfm => "rtfm"

def ofName? : String -> Option Function
  | "python" => some python
  | "rtfm" => some rtfm
  | _ => none

end Function

inductive Segment where
  | text (text : String)
  | call (function : Function)
deriving DecidableEq, Repr

namespace Segment

/-- A placeholder with the given name. -/
def placeholder (name : List Char) : List Char :=
  '\x7b' :: name ++ ['(', ')', '\x7d']

def source : Segment -> List Char
  | text t => t.toList
  | call f => placeholder f.name.toList

def isCall : Segment -> Bool
  | text _ => false
  | call _ => true

end Segment

structure Template where
  segments : List Segment
deriving DecidableEq, Repr

/-- A placeholder that names no known function. -/
structure UnknownFunction where
  name : String
deriving DecidableEq, Repr

namespace UnknownFunction

def message (e : UnknownFunction) : String :=
  "unknown template function \x60" ++ e.name ++ "()\x60"

end UnknownFunction

namespace Template

/-- The text that the template was read from. -/
def source (t : Template) : String :=
  String.ofList (t.segments.flatMap Segment.source)

def hasCalls (t : Template) : Bool :=
  t.segments.any Segment.isCall

/-!
# Placeholders
-/

def isNameStart (c : Char) : Bool :=
  c.isAlpha || c == '_'

def isNameChar (c : Char) : Bool :=
  c.isAlphanum || c == '_'

/-- What follows the parentheses and the brace that end a placeholder. -/
def afterCall? : List Char -> Option (List Char)
  | '(' :: ')' :: '\x7d' :: rest => some rest
  | _ => none

/-- The name in a placeholder at the start of a text, and the text after it. -/
def placeholder? : List Char -> Option (List Char × List Char)
  | '\x7b' :: first :: rest =>
      if isNameStart first then
        match afterCall? (rest.dropWhile isNameChar) with
        | some after => some (first :: rest.takeWhile isNameChar, after)
        | none => none
      else none
  | _ => none

theorem afterCall?_length {cs rest : List Char} (h : afterCall? cs = some rest) :
    rest.length < cs.length := by
  unfold afterCall? at h
  split at h
  · cases h
    simp
    omega
  · cases h

theorem placeholder?_length {cs name rest : List Char}
    (h : placeholder? cs = some (name, rest)) : rest.length < cs.length := by
  unfold placeholder? at h
  split at h
  · rename_i first tail
    split at h
    · split at h
      · rename_i after hafter
        cases h
        have shorter := afterCall?_length hafter
        have dropped := (List.dropWhile_suffix isNameChar (l := tail)).length_le
        simp
        omega
      · cases h
    · cases h
  · cases h

/-!
# Reading
-/

/-- A literal segment, unless there is no text for it. -/
def literal (text : List Char) : List Segment :=
  if text.isEmpty then [] else [Segment.text (String.ofList text)]

/-- Reads the second argument; the first is the literal text just before it, last
character first. -/
def segmentsFrom (text : List Char) : List Char -> Except UnknownFunction (List Segment)
  | [] => .ok (literal text.reverse)
  | c :: rest =>
      match _h : placeholder? (c :: rest) with
      | some (name, after) =>
          match Function.ofName? (String.ofList name) with
          | none => .error ⟨String.ofList name⟩
          | some function =>
              (segmentsFrom [] after).map fun more =>
                literal text.reverse ++ Segment.call function :: more
      | none => segmentsFrom (c :: text) rest
termination_by cs => cs.length
decreasing_by
  · exact placeholder?_length _h
  · simp

def parse (source : String) : Except UnknownFunction Template :=
  (segmentsFrom [] source.toList).map Template.mk

end Template
end Colloquy
