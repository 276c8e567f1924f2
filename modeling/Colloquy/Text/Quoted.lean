import Colloquy.Unicode.Category
import Colloquy.Unicode.Property

/-!
# Quoted text

A quoted text shows any text on one line.  Characters that cannot be seen on their
own, and those that extend the character before them, are written by number.
-/

namespace Colloquy
namespace Text

def extenders : Array (Nat × Nat) :=
  (Unicode.rangesOfText Unicode.graphemeExtendText).toArray

def isVisible (c : Char) : Bool :=
  c == ' ' ||
    match Unicode.category c with
    | .control => false
    | .format => false
    | .surrogate => false
    | .privateUse => false
    | .unassigned => false
    | .lineSeparator => false
    | .paragraphSeparator => false
    | .spaceSeparator => false
    | _ => true

def byNumber (c : Char) : List Char :=
  ['\\', 'u', '\x7b'] ++ Nat.toDigits 16 c.toNat ++ ['\x7d']

def quotedChar (c : Char) : List Char :=
  match c with
  | '\x00' => ['\\', '0']
  | '\t' => ['\\', 't']
  | '\r' => ['\\', 'r']
  | '\n' => ['\\', 'n']
  | '\\' => ['\\', '\\']
  | '"' => ['\\', '"']
  | c =>
      if c.toNat < 0x7F && 0x20 <= c.toNat then [c]
      else if Unicode.inRanges extenders c.toNat || !isVisible c then byNumber c
      else [c]

def quoted (s : String) : String :=
  "\"" ++ String.ofList (s.toList.flatMap quotedChar) ++ "\""

end Text
end Colloquy
