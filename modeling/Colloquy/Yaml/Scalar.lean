import Colloquy.Text.Hex
import Colloquy.Yaml.Cursor

/-!
# Scalars as they are written

A scalar is plain, quoted or a block.  Plain and quoted scalars fold: a lone line
end between two words is a blank, and of several line ends the first is dropped.
Readers carry a number of steps that the length of the text bounds.
-/

namespace Colloquy
namespace Yaml

/-- Blanks and line ends between two words of a scalar, last first.  Once there is a
line end, blanks no longer count. -/
structure Gap where
  blanks : List Char := []
  breaks : List Char := []

namespace Gap

def crossesLine (g : Gap) : Bool :=
  !g.breaks.isEmpty

def isEmpty (g : Gap) : Bool :=
  g.blanks.isEmpty && g.breaks.isEmpty

def blank (g : Gap) (c : Char) : Gap :=
  if g.crossesLine then g else { g with blanks := c :: g.blanks }

def lineEnd (g : Gap) (c : Char) : Gap :=
  { blanks := [], breaks := c :: g.breaks }

/-- What line ends are folded to. -/
def fold : List Char -> List Char
  | [] => []
  | ['\n'] => [' ']
  | '\n' :: more => more
  | first :: more => first :: more

/-- What the gap contributes to the scalar. -/
def text (g : Gap) : List Char :=
  if g.crossesLine then fold g.breaks.reverse else g.blanks.reverse

end Gap

/-!
# Plain scalars
-/

structure PlainResult where
  text : List Char
  rest : Cursor
  /-- The scalar was left on a line after the one with its last word. -/
  crossedLine : Bool

def isFlowIndicator (c : Char) : Bool :=
  c == ',' || c == '[' || c == ']' || c == '\x7b' || c == '\x7d'

/-- A colon directly before one of these is an error in a flow collection. -/
def isUnexpectedAfterColon (rest : List Char) : Bool :=
  match rest with
  | c :: _ => isFlowIndicator c || c == '?'
  | [] => false

/-- The word that goes on here ends here. -/
def endsWord (flow : Bool) (c : Char) (rest : List Char) : Bool :=
  (c == ':' && startsBlankOrEnd rest) || (flow && isFlowIndicator c)

/-- A scalar with `read` behind it (last character first) and then `gap` ends where
a new word would start. -/
def endsBeforeWord (flow : Bool) (indent : Nat) (cursor : Cursor) : Bool :=
  (!flow && cursor.column < indent) || cursor.atDocumentMarker || cursor.next? == some '#'

def plainFrom (flow : Bool) (indent : Nat) :
    Nat -> List Char -> Gap -> Cursor -> Except Error PlainResult
  | 0, _, _, _ => .error .stepsExhausted
  | steps + 1, read, gap, cursor =>
      let stop : PlainResult := ⟨read.reverse, cursor, gap.crossesLine⟩
      match cursor.rest with
      | [] => .ok stop
      | c :: rest =>
          if isBlank c then
            if gap.crossesLine && cursor.column < indent && c == '\t' then
              .error .tabInIndentation
            else plainFrom flow indent steps read (gap.blank c) cursor.advance
          else if isBreak c then
            plainFrom flow indent steps read (gap.lineEnd c) cursor.advance
          else if !gap.isEmpty && endsBeforeWord flow indent cursor then .ok stop
          else if flow && c == ':' && isUnexpectedAfterColon rest then
            .error .unexpectedIndicator
          else if endsWord flow c rest then .ok stop
          else
            plainFrom flow indent steps (c :: (gap.text.reverse ++ read)) {} cursor.advance

/-- A plain scalar; in a block its further lines are indented by at least `indent`. -/
def plain (flow : Bool) (indent : Nat) (cursor : Cursor) : Except Error PlainResult :=
  plainFrom flow indent (cursor.rest.length + 1) [] {} cursor

/-!
# Quoted scalars
-/

/-- The escapes of one character. -/
def escape? : Char -> Option Char
  | '0' => some '\x00'
  | 'a' => some '\x07'
  | 'b' => some '\x08'
  | 't' => some '\t'
  | '\t' => some '\t'
  | 'n' => some '\n'
  | 'v' => some '\x0b'
  | 'f' => some '\x0c'
  | 'r' => some '\r'
  | 'e' => some '\x1b'
  | ' ' => some ' '
  | '"' => some '"'
  | '/' => some '/'
  | '\\' => some '\\'
  | 'N' => some '\u0085'
  | '_' => some '\u00A0'
  | 'L' => some '\u2028'
  | 'P' => some '\u2029'
  | _ => none

/-- The number of digits in an escape by number. -/
def escapeDigits? : Char -> Option Nat
  | 'x' => some 2
  | 'u' => some 4
  | 'U' => some 8
  | _ => none

/-- The character of an escape, and the number of characters after the backslash
that it takes. -/
def escaped? : List Char -> Option (Char × Nat)
  | [] => none
  | c :: rest =>
      match escapeDigits? c with
      | none => (escape? c).map fun x => (x, 1)
      | some digits =>
          let written := rest.take digits
          if written.length < digits then none
          else
            match Text.hexNumber? written with
            | none => none
            | some n => if n.isValidChar then some (Char.ofNat n, digits + 1) else none

inductive Quote where
  | single
  | double
deriving DecidableEq, Repr

def Quote.char : Quote -> Char
  | single => '\''
  | double => '"'

/-- Reads a quoted scalar behind its opening quote.  `cut` says that a backslash
before a line end, which leaves nothing in the scalar, opened the gap. -/
def quotedFrom (quote : Quote) :
    Nat -> List Char -> Bool -> Gap -> Cursor -> Except Error (List Char × Cursor)
  | 0, _, _, _, _ => .error .stepsExhausted
  | steps + 1, read, cut, gap, cursor =>
      let gapText := if cut then gap.breaks.reverse else gap.text
      if cursor.atDocumentMarker then .error .unexpectedIndicator
      else
        match cursor.rest with
        | [] => .error .openScalar
        | c :: rest =>
            if isBlank c then
              quotedFrom quote steps read cut (if cut then gap else gap.blank c) cursor.advance
            else if isBreak c then
              quotedFrom quote steps read cut (gap.lineEnd c) cursor.advance
            else if c == quote.char then
              if quote == .single && rest.head? == some '\'' then
                quotedFrom quote steps ('\'' :: (gapText.reverse ++ read)) false {} (cursor.skip 2)
              else .ok ((gapText.reverse ++ read).reverse, cursor.advance)
            else if quote == .double && c == '\\' then
              match rest with
              | [] => .error .badEscape
              | next :: _ =>
                  if isBreak next then
                    quotedFrom quote steps (gapText.reverse ++ read) true {}
                      cursor.advance.advance
                  else
                    match escaped? rest with
                    | none => .error .badEscape
                    | some (x, n) =>
                        quotedFrom quote steps (x :: (gapText.reverse ++ read)) false {}
                          (cursor.skip (n + 1))
            else quotedFrom quote steps (c :: (gapText.reverse ++ read)) false {} cursor.advance

def quoted (quote : Quote) (cursor : Cursor) : Except Error (List Char × Cursor) :=
  quotedFrom quote (cursor.rest.length + 1) [] false {} (cursor.skip 1)

/-!
# Block scalars
-/

/-- What becomes of the line ends after the last line. -/
inductive Chomping where
  | clip
  | strip
  | keep
deriving DecidableEq, Repr

structure BlockHeader where
  chomping : Chomping := .clip
  /-- How much deeper the lines are than the surrounding block, when it is given. -/
  increment : Option Nat := none

def chomping? : Char -> Option Chomping
  | '-' => some .strip
  | '+' => some .keep
  | _ => none

def increment? (c : Char) : Option Nat :=
  if c.isDigit then some (c.toNat - 0x30) else none

/-- The indicators after the one that opens a block scalar, in either order. -/
def blockHeader (cs : List Char) : BlockHeader × Nat :=
  match cs with
  | a :: rest =>
      match chomping? a, increment? a with
      | some chomping, _ =>
          match rest.head?.bind increment? with
          | some n => ({ chomping := chomping, increment := some n }, 2)
          | none => ({ chomping := chomping }, 1)
      | none, some n =>
          match rest.head?.bind chomping? with
          | some chomping => ({ chomping := chomping, increment := some n }, 2)
          | none => ({ increment := some n }, 1)
      | none, none => ({}, 0)
  | [] => ({}, 0)

structure Margin where
  /-- The indentation, when it is known already. -/
  indent : Option Nat
  /-- The deepest column reached so far. -/
  deepest : Nat := 0
  /-- The line ends passed, last first. -/
  breaks : List Char := []

/-- Passes empty lines and the indentation of the line after them. -/
def marginFrom (indent : Option Nat) :
    Nat -> Nat -> List Char -> Cursor -> Except Error (Margin × Cursor)
  | 0, _, _, _ => .error .stepsExhausted
  | steps + 1, deepest, breaks, cursor =>
      let within := match indent with
        | none => true
        | some n => cursor.column < n
      match cursor.next? with
      | some ' ' =>
          if within then marginFrom indent steps deepest breaks cursor.advance
          else .ok (⟨indent, max deepest cursor.column, breaks⟩, cursor)
      | some '\t' =>
          if within then .error .tabInIndentation
          else .ok (⟨indent, max deepest cursor.column, breaks⟩, cursor)
      | some c =>
          if isBreak c then
            marginFrom indent steps (max deepest cursor.column) (c :: breaks) cursor.advance
          else .ok (⟨indent, max deepest cursor.column, breaks⟩, cursor)
      | none => .ok (⟨indent, max deepest cursor.column, breaks⟩, cursor)

def margin (indent : Option Nat) (cursor : Cursor) : Except Error (Margin × Cursor) :=
  marginFrom indent (cursor.rest.length + 1) 0 [] cursor

structure BlockText where
  /-- The characters read, last first. -/
  read : List Char := []
  /-- The line end after the last line. -/
  lineEnd : List Char := []
  /-- The empty lines after it, in order. -/
  empties : List Char := []
  /-- The last line starts with a blank. -/
  indented : Bool := false

/-- The line ends between two lines of a block scalar.  A folded scalar keeps them
next to lines that start with a blank. -/
def BlockText.joined (t : BlockText) (folded startsBlank : Bool) : List Char :=
  if folded && t.lineEnd == ['\n'] && !t.indented && !startsBlank then
    (if t.empties.isEmpty then [' '] else t.empties)
  else t.lineEnd ++ t.empties

def blockLines (folded : Bool) (indent : Nat) :
    Nat -> BlockText -> Cursor -> Except Error (BlockText × Cursor)
  | 0, _, _ => .error .stepsExhausted
  | steps + 1, t, cursor =>
      if cursor.column != indent || cursor.rest.isEmpty then .ok (t, cursor)
      else
        let startsBlank := (cursor.next?.map isBlank).getD false
        let line := cursor.taken fun c => !isBreak c
        let after := cursor.skipWhile fun c => !isBreak c
        let lineEnd := after.rest.take 1
        match margin (some indent) after.advance with
        | .error e => .error e
        | .ok (m, cursor) =>
            blockLines folded indent steps
              { read := line.reverse ++ ((t.joined folded startsBlank).reverse ++ t.read)
                lineEnd := lineEnd
                empties := m.breaks.reverse
                indented := startsBlank } cursor

def BlockText.finish (t : BlockText) : Chomping -> List Char
  | .strip => t.read.reverse
  | .clip => t.read.reverse ++ t.lineEnd
  | .keep => t.read.reverse ++ t.lineEnd ++ t.empties

/-- A block scalar inside a block that is indented by `parent`, or at top level. -/
def block (folded : Bool) (parent : Option Nat) (cursor : Cursor) :
    Except Error (List Char × Cursor) := do
  let (header, width) := blockHeader (cursor.rest.drop 1)
  if header.increment == some 0 then
    throw .badBlockHeader
  let cursor := ((cursor.skip (width + 1)).skipWhile isBlank).skipComment
  if !startsBreakOrEnd cursor.rest then
    throw .badBlockHeader
  let cursor := cursor.advance
  let given := header.increment.map fun n => parent.getD 0 + n
  let (m, cursor) <- margin given cursor
  let least := match parent with
    | some n => n + 1
    | none => 1
  let indent := given.getD (max m.deepest least)
  let (t, cursor) <- blockLines folded indent (cursor.rest.length + 1)
    { empties := m.breaks.reverse } cursor
  return (t.finish header.chomping, cursor)

end Yaml
end Colloquy
