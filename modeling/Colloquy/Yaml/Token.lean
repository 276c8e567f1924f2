import Colloquy.Text.Bytes
import Colloquy.Yaml.Scalar

/-!
# Tokens of a YAML text

Tokens are found from left to right.  Indentation opens and closes block
collections.  Anything that may turn out to be a key is remembered, and its key
token is put in front of it once the colon behind it is met on the same line.
-/

namespace Colloquy
namespace Yaml

/-- A tag as it is written: a handle and a suffix. -/
structure TagName where
  handle : List Char
  suffix : List Char
deriving DecidableEq, Repr

inductive Token where
  | versionDirective (major minor : Nat)
  | tagDirective (handle expansion : List Char)
  | documentStart
  | documentEnd
  | blockSequenceStart
  | blockMappingStart
  | blockEnd
  | flowSequenceStart
  | flowSequenceEnd
  | flowMappingStart
  | flowMappingEnd
  | blockEntry
  | flowEntry
  | key
  | value
  | alias (name : List Char)
  | anchor (name : List Char)
  | tag (name : TagName)
  | scalar (plain : Bool) (text : List Char)
deriving DecidableEq, Repr

/-- A place where a key may begin. -/
structure KeyCandidate where
  /-- The number of tokens before it. -/
  position : Nat
  line : Nat
  column : Nat
  /-- The number of characters of the line that are left at its start. -/
  remaining : Nat
  /-- Nothing but a key may stand here. -/
  required : Bool
deriving Repr

/-- The state of the search for tokens. -/
structure Scan where
  cursor : Cursor
  tokens : Array Token := #[]
  /-- The indentation of the innermost block; none outside all of them. -/
  indent : Option Nat := none
  outer : List (Option Nat) := []
  /-- The candidate of each collection that is open in flow style, innermost first,
  and last that of the blocks around them. -/
  candidates : List (Option KeyCandidate) := [none]
  keyAllowed : Bool := true

namespace Scan

def inFlow (s : Scan) : Bool :=
  s.candidates.length > 1

def emit (s : Scan) (t : Token) : Scan :=
  { s with tokens := s.tokens.push t }

def candidate? (s : Scan) : Option KeyCandidate :=
  s.candidates.head?.join

def setCandidate (s : Scan) (c : Option KeyCandidate) : Scan :=
  { s with candidates := c :: s.candidates.tail }

/-- Gives up the candidate of the innermost collection. -/
def dropCandidate (s : Scan) : Except Error Scan :=
  match s.candidate? with
  | some c => if c.required then .error .valueExpected else .ok (s.setCandidate none)
  | none => .ok s

/-- Notes that a key may begin at the cursor. -/
def noteCandidate (s : Scan) : Except Error Scan :=
  if s.keyAllowed then do
    let s <- s.dropCandidate
    return s.setCandidate (some
      { position := s.tokens.size
        line := s.cursor.line
        column := s.cursor.column
        remaining := s.cursor.rest.length
        required := !s.inFlow && s.indent == some s.cursor.column })
  else .ok s

/-- The candidate, if it is on the line of the cursor and at most 1024 characters
before it. -/
def liveCandidate? (s : Scan) : Except Error (Option KeyCandidate) :=
  match s.candidate? with
  | none => .ok none
  | some c =>
      if c.line < s.cursor.line || c.remaining > s.cursor.rest.length + 1024 then
        if c.required then .error .valueExpected else .ok none
      else .ok (some c)

/-- Opens a block collection at `column` if it lies deeper than the block around
it; its first token goes before token `position`. -/
def openBlock (s : Scan) (column position : Nat) (t : Token) : Scan :=
  let deeper := match s.indent with
    | none => true
    | some n => n < column
  if !s.inFlow && deeper then
    { s with
      indent := some column
      outer := s.indent :: s.outer
      tokens := s.tokens.insertIdxIfInBounds position t }
  else s

/-- Closes the blocks that lie deeper than `column`, or all of them. -/
def closeBlocks (s : Scan) (column : Option Nat) : Scan :=
  if s.inFlow then s else go s s.outer
where
  go (s : Scan) : List (Option Nat) -> Scan
    | [] => s
    | around :: outer =>
        let deeper := match s.indent, column with
          | none, _ => false
          | some _, none => true
          | some n, some m => m < n
        if deeper then
          go { s with indent := around, outer := outer, tokens := s.tokens.push .blockEnd } outer
        else s

/-- Passes blanks, comments and line ends. -/
def toNextToken (s : Scan) : Nat -> Scan
  | 0 => s
  | steps + 1 =>
      let tabs := s.inFlow || !s.keyAllowed
      let cursor :=
        (s.cursor.skipWhile fun c => c == ' ' || (tabs && c == '\t')).skipComment
      match cursor.next? with
      | some c =>
          if isBreak c then
            toNextToken
              { s with cursor := cursor.advance, keyAllowed := s.keyAllowed || !s.inFlow } steps
          else { s with cursor := cursor }
      | none => { s with cursor := cursor }

/-!
# Directives, anchors and tags
-/

def directiveEnd (cursor : Cursor) : Except Error Cursor :=
  let cursor := (cursor.skipWhile isBlank).skipComment
  if startsBreakOrEnd cursor.rest then .ok cursor.advance else .error .badDirective

def versionNumber (cursor : Cursor) : Except Error (Nat × Cursor) :=
  let digits := cursor.taken Char.isDigit
  if digits.isEmpty || digits.length > 9 then .error .badDirective
  else
    .ok (digits.foldl (fun n c => 10 * n + (c.toNat - 0x30)) 0, cursor.skip digits.length)

/-- A handle: an exclamation mark, or a word between two of them. -/
def tagHandle (directive : Bool) (cursor : Cursor) : Except Error (List Char × Cursor) :=
  match cursor.rest with
  | '!' :: rest =>
      let word := rest.takeWhile isWordChar
      match rest.drop word.length with
      | '!' :: _ => .ok ('!' :: word ++ ['!'], cursor.skip (word.length + 2))
      | _ =>
          if directive && !word.isEmpty then .error .badTag
          else .ok ('!' :: word, cursor.skip (word.length + 1))
  | _ => .error .badTag

def isUriChar (full : Bool) (c : Char) : Bool :=
  isWordChar c || [';', '/', '?', ':', '@', '&', '=', '+', '$', '.', '%', '!', '~', '*', '\'',
    '(', ')'].contains c || (full && (c == ',' || c == '[' || c == ']'))

/-- The bytes of a run of escapes, as one character. -/
def uriEscape? (cs : List Char) : Option (Char × List Char) :=
  let bytes := bytesFrom cs.length cs
  match bytes with
  | [] => none
  | b :: rest =>
      let read := Text.readChar b rest
      let used := rest.length - read.2.length + 1
      read.1.map fun c => (c, cs.drop (3 * used))
where
  bytesFrom : Nat -> List Char -> List UInt8
    | steps + 1, '%' :: a :: b :: rest =>
        match Text.hexValue? a, Text.hexValue? b with
        | some x, some y => UInt8.ofNat (16 * x + y) :: bytesFrom steps rest
        | _, _ => []
    | _, _ => []

def uriFrom (full : Bool) : Nat -> List Char -> List Char -> Except Error (List Char × List Char)
  | steps + 1, read, '%' :: rest =>
      match uriEscape? ('%' :: rest) with
      | some (c, rest) => uriFrom full steps (c :: read) rest
      | none => .error .badTag
  | steps + 1, read, c :: rest =>
      if isUriChar full c then uriFrom full steps (c :: read) rest
      else .ok (read.reverse, c :: rest)
  | _, read, rest => .ok (read.reverse, rest)

/-- The characters of a tag after `start`, which may not be empty with it. -/
def tagUri (full : Bool) (start : List Char) (cursor : Cursor) :
    Except Error (List Char × Cursor) := do
  let (uri, rest) <- uriFrom full cursor.rest.length [] cursor.rest
  if start.isEmpty && uri.isEmpty then
    throw .badTag
  return (start.drop 1 ++ uri, cursor.skip (cursor.rest.length - rest.length))

def directive (cursor : Cursor) : Except Error (Token × Cursor) := do
  let name := (cursor.skip 1).taken isWordChar
  let cursor := cursor.skip (name.length + 1)
  if name.isEmpty || !startsBlankOrEnd cursor.rest then
    throw .badDirective
  let cursor := cursor.skipWhile isBlank
  if name == "YAML".toList then
    let (major, cursor) <- versionNumber cursor
    if cursor.next? != some '.' then
      throw .badDirective
    let (minor, cursor) <- versionNumber (cursor.skip 1)
    let cursor <- directiveEnd cursor
    return (.versionDirective major minor, cursor)
  else if name == "TAG".toList then
    let (handle, cursor) <- tagHandle true cursor
    if !(cursor.next?.map isBlank).getD false then
      throw .badDirective
    let (expansion, cursor) <- tagUri true [] (cursor.skipWhile isBlank)
    if !startsBlankOrEnd cursor.rest then
      throw .badDirective
    let cursor <- directiveEnd cursor
    return (.tagDirective handle expansion, cursor)
  else throw .badDirective

def endsAnchor : List Char -> Bool
  | [] => true
  | c :: _ =>
      isBlank c || isBreak c || ['?', ':', ',', ']', '\x7d', '%', '@', '\x60'].contains c

/-- The name of an anchor or an alias. -/
def anchorName (cursor : Cursor) : Except Error (List Char × Cursor) :=
  let name := (cursor.skip 1).taken isWordChar
  let cursor := cursor.skip (name.length + 1)
  if name.isEmpty || !endsAnchor cursor.rest then .error .badAnchor else .ok (name, cursor)

def tagName (flow : Bool) (cursor : Cursor) : Except Error (TagName × Cursor) := do
  let (name, cursor) <- do
    if cursor.rest.drop 1 |>.head? |> (· == some '<') then
      let (suffix, cursor) <- tagUri true [] (cursor.skip 2)
      if cursor.next? != some '>' then
        throw Error.badTag
      pure (TagName.mk [] suffix, cursor.skip 1)
    else
      let (handle, after) <- tagHandle false cursor
      if handle.length > 1 && handle.getLast? == some '!' then
        let (suffix, cursor) <- tagUri false [] after
        pure (TagName.mk handle suffix, cursor)
      else
        let (suffix, cursor) <- tagUri false handle after
        pure (if suffix.isEmpty then TagName.mk [] ['!'] else TagName.mk ['!'] suffix, cursor)
  if startsBlankOrEnd cursor.rest || (flow && cursor.next? == some ',') then
    return (name, cursor)
  else throw .badTag

/-!
# Tokens
-/

/-- A token of one character that ends whatever key may have begun before it. -/
def indicator (s : Scan) (t : Token) (keyAllowed : Bool) : Except Error Scan := do
  let s <- s.dropCandidate
  return { s with cursor := s.cursor.skip 1, keyAllowed := keyAllowed }.emit t

def flowStart (s : Scan) (t : Token) : Except Error Scan := do
  let s <- s.noteCandidate
  return { s with
    cursor := s.cursor.skip 1
    keyAllowed := true
    candidates := none :: s.candidates }.emit t

def flowEnd (s : Scan) (t : Token) : Except Error Scan := do
  let s <- s.dropCandidate
  let outer := if s.inFlow then s.candidates.tail else s.candidates
  return { s with cursor := s.cursor.skip 1, keyAllowed := false, candidates := outer }.emit t

def blockEntry (s : Scan) : Except Error Scan :=
  if s.inFlow then s.indicator .blockEntry true
  else if !s.keyAllowed then .error .misplacedEntry
  else
    (s.openBlock s.cursor.column s.tokens.size .blockSequenceStart).indicator .blockEntry true

def explicitKey (s : Scan) : Except Error Scan :=
  if s.inFlow then s.indicator .key false
  else if !s.keyAllowed then .error .misplacedKey
  else (s.openBlock s.cursor.column s.tokens.size .blockMappingStart).indicator .key true

def valueIndicator (s : Scan) : Except Error Scan := do
  match <- s.liveCandidate? with
  | some c =>
      let s := { s with tokens := s.tokens.insertIdxIfInBounds c.position .key }
      let s := (s.openBlock c.column c.position .blockMappingStart).setCandidate none
      return { s with cursor := s.cursor.skip 1, keyAllowed := false }.emit .value
  | none =>
      let s := s.setCandidate none
      if s.inFlow then
        return { s with cursor := s.cursor.skip 1, keyAllowed := false }.emit .value
      else if !s.keyAllowed then throw .misplacedValue
      else
        let s := s.openBlock s.cursor.column s.tokens.size .blockMappingStart
        return { s with cursor := s.cursor.skip 1, keyAllowed := true }.emit .value

def documentMarker (s : Scan) (t : Token) : Except Error Scan := do
  let s <- (s.closeBlocks none).dropCandidate
  return { s with cursor := s.cursor.skip 3, keyAllowed := false }.emit t

def directiveToken (s : Scan) : Except Error Scan := do
  let s <- (s.closeBlocks none).dropCandidate
  let (t, cursor) <- directive s.cursor
  return { s with cursor := cursor, keyAllowed := false }.emit t

def anchorToken (s : Scan) (t : List Char -> Token) : Except Error Scan := do
  let s <- s.noteCandidate
  let (name, cursor) <- anchorName s.cursor
  return { s with cursor := cursor, keyAllowed := false }.emit (t name)

def tagToken (s : Scan) : Except Error Scan := do
  let s <- s.noteCandidate
  let (name, cursor) <- tagName s.inFlow s.cursor
  return { s with cursor := cursor, keyAllowed := false }.emit (.tag name)

def blockToken (s : Scan) (folded : Bool) : Except Error Scan := do
  let s <- s.dropCandidate
  let (text, cursor) <- block folded s.indent s.cursor
  return { s with cursor := cursor, keyAllowed := true }.emit (.scalar false text)

def quotedToken (s : Scan) (quote : Quote) : Except Error Scan := do
  let s <- s.noteCandidate
  let (text, cursor) <- quoted quote s.cursor
  return { s with cursor := cursor, keyAllowed := false }.emit (.scalar false text)

def plainToken (s : Scan) : Except Error Scan := do
  let s <- s.noteCandidate
  let least := match s.indent with
    | some n => n + 1
    | none => 0
  let result <- plain s.inFlow least s.cursor
  return { s with cursor := result.rest, keyAllowed := result.crossedLine }.emit
    (.scalar true result.text)

/-- The characters that open something else than a plain scalar. -/
def isIndicator (c : Char) : Bool :=
  ['-', '?', ':', ',', '[', ']', '\x7b', '\x7d', '#', '&', '*', '!', '|', '>', '\'', '"', '%',
    '@', '\x60'].contains c

def startsPlain (flow : Bool) (c : Char) (rest : List Char) : Bool :=
  !(isBlank c || isBreak c || isIndicator c) ||
    (c == '-' && !(rest.head?.map isBlank).getD false) ||
    (!flow && (c == '?' || c == ':') && !startsBlankOrEnd rest)

/-- The next token; the cursor is at its first character `c`, before `rest`. -/
def token (s : Scan) (c : Char) (rest : List Char) : Except Error Scan :=
  let s := s.closeBlocks (some s.cursor.column)
  if s.cursor.column == 0 && c == '%' then s.directiveToken
  else if s.cursor.atDocumentMarker then
    s.documentMarker (if c == '-' then .documentStart else .documentEnd)
  else if c == '[' then s.flowStart .flowSequenceStart
  else if c == '\x7b' then s.flowStart .flowMappingStart
  else if c == ']' then s.flowEnd .flowSequenceEnd
  else if c == '\x7d' then s.flowEnd .flowMappingEnd
  else if c == ',' then s.indicator .flowEntry true
  else if c == '-' && startsBlankOrEnd rest then s.blockEntry
  else if c == '?' && (s.inFlow || startsBlankOrEnd rest) then s.explicitKey
  else if c == ':' && (s.inFlow || startsBlankOrEnd rest) then s.valueIndicator
  else if c == '*' then s.anchorToken .alias
  else if c == '&' then s.anchorToken .anchor
  else if c == '!' then s.tagToken
  else if c == '|' && !s.inFlow then s.blockToken false
  else if c == '>' && !s.inFlow then s.blockToken true
  else if c == '\'' then s.quotedToken .single
  else if c == '"' then s.quotedToken .double
  else if startsPlain s.inFlow c rest then s.plainToken
  else .error .unknownToken

def finish (s : Scan) : Except Error Scan :=
  (s.closeBlocks none).dropCandidate

def tokensFrom : Nat -> Scan -> Except Error Scan
  | 0, _ => .error .stepsExhausted
  | steps + 1, s =>
      let s := s.toNextToken (s.cursor.rest.length + 1)
      match s.cursor.rest with
      | [] => s.finish
      | c :: rest =>
          match s.token c rest with
          | .error e => .error e
          | .ok s => tokensFrom steps s

end Scan

/-- The tokens of a whole text. -/
def tokens (text : List Char) : Except Error (List Token) := do
  let cursor <- Cursor.ofText text
  let s <- Scan.tokensFrom (cursor.rest.length + 1) { cursor := cursor }
  return s.tokens.toList

end Yaml
end Colloquy
