import Colloquy.Yaml.Error

/-!
# Positions in a YAML text

A cursor is the text still to be read and the line and column where it begins.
Line ends are made uniform before reading, so that a line feed stands for all of
them but the two separators of Unicode, which keep their own character.
-/

namespace Colloquy
namespace Yaml

structure Cursor where
  rest : List Char
  line : Nat := 0
  column : Nat := 0
deriving Repr

def isBlank (c : Char) : Bool :=
  c == ' ' || c == '\t'

def isBreak (c : Char) : Bool :=
  c == '\n' || c == '\u2028' || c == '\u2029'

def isWordChar (c : Char) : Bool :=
  c.isAlphanum || c == '_' || c == '-'

/-- The text is at its end or goes on with a blank or a line end. -/
def startsBlankOrEnd : List Char -> Bool
  | [] => true
  | c :: _ => isBlank c || isBreak c

/-- The text is at its end or at the end of a line. -/
def startsBreakOrEnd : List Char -> Bool
  | [] => true
  | c :: _ => isBreak c

namespace Cursor

def next? (c : Cursor) : Option Char :=
  c.rest.head?

/-- Past one character. -/
def advance (c : Cursor) : Cursor :=
  match c.rest with
  | [] => c
  | x :: rest =>
      if isBreak x then { rest := rest, line := c.line + 1, column := 0 }
      else { c with rest := rest, column := c.column + 1 }

/-- Past `n` characters of the same line. -/
def skip (c : Cursor) (n : Nat) : Cursor :=
  { c with rest := c.rest.drop n, column := c.column + n }

/-- Past the characters that satisfy `p`, of which none ends a line. -/
def skipWhile (c : Cursor) (p : Char -> Bool) : Cursor :=
  let passed := c.rest.takeWhile p
  { c with rest := c.rest.drop passed.length, column := c.column + passed.length }

def taken (c : Cursor) (p : Char -> Bool) : List Char :=
  c.rest.takeWhile p

def skipComment (c : Cursor) : Cursor :=
  if c.next? == some '#' then c.skipWhile fun x => !isBreak x else c

/-- The line begins with a marker of the start or the end of a document. -/
def atDocumentMarker (c : Cursor) : Bool :=
  c.column == 0 &&
    match c.rest with
    | '-' :: '-' :: '-' :: rest => startsBlankOrEnd rest
    | '.' :: '.' :: '.' :: rest => startsBlankOrEnd rest
    | _ => false

end Cursor

/-- The characters that may stand in a YAML text. -/
def isAllowed (c : Char) : Bool :=
  let n := c.toNat
  n == 0x9 || n == 0xA || n == 0xD || (0x20 <= n && n <= 0x7E) || n == 0x85 ||
    (0xA0 <= n && n <= 0xD7FF) || (0xE000 <= n && n <= 0xFFFD && n != 0xFEFF) ||
    0x10000 <= n

/-- One line feed for each carriage return, line feed, pair of both and next-line
character. -/
def uniformBreaks : List Char -> List Char
  | [] => []
  | '\r' :: '\n' :: rest => '\n' :: uniformBreaks rest
  | '\r' :: rest => '\n' :: uniformBreaks rest
  | '\u0085' :: rest => '\n' :: uniformBreaks rest
  | c :: rest => c :: uniformBreaks rest

/-- The start of a text: a byte order mark is passed over, and every other
character must be allowed. -/
def Cursor.ofText (text : List Char) : Except Error Cursor :=
  let body := match text with
    | '\uFEFF' :: rest => rest
    | _ => text
  if body.all isAllowed then .ok { rest := uniformBreaks body } else .error .forbiddenCharacter

end Yaml
end Colloquy
