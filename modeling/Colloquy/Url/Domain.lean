import Colloquy.Unicode.Category
import Colloquy.Unicode.Compatibility
import Colloquy.Unicode.Composition
import Colloquy.Url.Punycode

/-!
# Domain names

A name is compared without regard to case and to variants of its characters, so the form
in which it is sent is one for all of them: in small letters, composed, and with each
label that has characters outside of ASCII written in Punycode.
-/

namespace Colloquy
namespace Url
namespace Domain

def isJoiner (c : Char) : Bool :=
  c == '\u200C' || c == '\u200D'

/-- The characters that may stand in a label at all; those of ASCII are judged later. -/
def isAllowed (c : Char) : Bool :=
  c.toNat < 0x80 || isJoiner c ||
    match Unicode.category c with
    | .control => false
    | .format => false
    | .surrogate => false
    | .privateUse => false
    | .unassigned => false
    | .lineSeparator => false
    | .paragraphSeparator => false
    | .spaceSeparator => false
    | _ => !(0x2FF0 <= c.toNat && c.toNat <= 0x2FFB) && c != '\uFFFC' && c != '\uFFFD'

def isMark (c : Char) : Bool :=
  Unicode.firstMark <= c.toNat &&
    match Unicode.category c with
    | .nonspacingMark => true
    | .spacingMark => true
    | .enclosingMark => true
    | _ => false

/-- A joiner stands only behind a sign that leaves out a vowel. -/
def joinersFit (before : Option Char) : List Char -> Bool
  | [] => true
  | c :: rest =>
      (!isJoiner c ||
        match before with
        | some b => Unicode.combiningClass b.toNat == 9
        | none => false) &&
      joinersFit (some c) rest

/-- A label in its composed form that may be part of a name. -/
def isLabel (label : List Char) : Bool :=
  label.all isAllowed && joinersFit none label &&
    match label with
    | [] => true
    | c :: _ => !isMark c

/-- What names that are the same have in common. -/
def uniform (cs : List Char) : List Char :=
  Unicode.compose (cs.flatMap Unicode.comparable)

/-- The label that Punycode writes.  It must be one that needs Punycode, and must already
be in the form that is the same for all its variants. -/
def decodeLabel? (written : List Char) : Option (List Char) :=
  (Punycode.decode? written).filter fun label =>
    !label.isEmpty && !label.all Punycode.isBasic && uniform label == label && isLabel label

/-- A label as it is sent. -/
def sentLabel? (label : List Char) : Option (List Char) :=
  match label with
  | 'x' :: 'n' :: '-' :: '-' :: written =>
      (decodeLabel? written).map fun _ => label
  | _ =>
      if !isLabel label then none
      else if label.all Punycode.isBasic then some label
      else some ('x' :: 'n' :: '-' :: '-' :: Punycode.encode label)

/-- The characters of ASCII that may not stand in a name. -/
def isDenied (c : Char) : Bool :=
  c.toNat <= 0x20 || c.toNat == 0x7F || "%#/:<>?@[\\]^\x60\x7b|\x7d".toList.contains c

/-- A name as it is sent. -/
def sent? (name : List Char) : Option (List Char) :=
  match ((uniform name).splitOn '.').mapM sentLabel? with
  | none => none
  | some labels =>
      let sent := List.intercalate ['.'] labels
      if sent.any isDenied then none else some sent

end Domain
end Url
end Colloquy
