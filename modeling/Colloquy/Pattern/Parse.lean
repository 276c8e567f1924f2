import Colloquy.Pattern.Error
import Colloquy.Pattern.Expr
import Colloquy.Text.Blank
import Colloquy.Text.Hex

/-!
# Reading patterns

A pattern is read from left to right.  Flags that are set in the middle of a group
hold up to its end.  Readers carry a number of steps that the length of the pattern
bounds.
-/

namespace Colloquy
namespace Pattern

structure Flags where
  ignoreCase : Bool := false
  multiLine : Bool := false
  dotNewline : Bool := false
  unicode : Bool := true
  crlf : Bool := false
  /-- Blanks and comments do not count. -/
  verbose : Bool := false

/-- The pattern still to be read, the flags in force and the group names so far. -/
structure Source where
  rest : List Char
  flags : Flags := {}
  names : List (List Char) := []

namespace Source

def skipBlanks : Nat -> List Char -> List Char
  | 0, cs => cs
  | _ + 1, [] => []
  | steps + 1, c :: rest =>
      if Text.isBlank c then skipBlanks steps rest
      else if c == '#' then skipBlanks steps ((rest.dropWhile (· != '\n')).drop 1)
      else c :: rest

/-- Past blanks and comments, where these do not count. -/
def settle (s : Source) : Source :=
  if s.flags.verbose then { s with rest := skipBlanks s.rest.length s.rest } else s

/-- Past `n` characters. -/
def skip (s : Source) (n : Nat) : Source :=
  { s with rest := s.rest.drop n }

/-- Past one character and the blanks behind it. -/
def next (s : Source) : Source :=
  (s.skip 1).settle

def startsWith (s : Source) (word : String) : Bool :=
  word.toList.isPrefixOf s.rest

end Source

/-!
# Numbers and escapes
-/

def scalar? (n : Nat) : Except Error Char :=
  if n.isValidChar then .ok (Char.ofNat n) else .error .badEscape

/-- The digits of a number up to a closing brace. -/
def bracedHex : Nat -> Option Nat -> Source -> Except Error (Char × Source)
  | 0, _, _ => .error .stepsExhausted
  | steps + 1, value, s =>
      match s.rest with
      | [] => .error .badEscape
      | '\x7d' :: _ =>
          match value with
          | none => .error .badEscape
          | some n => do
              let c <- scalar? n
              return (c, s.skip 1)
      | c :: _ =>
          match Text.hexValue? c with
          | none => .error .badEscape
          | some d => bracedHex steps (some (16 * value.getD 0 + d)) s.next

/-- A number of exactly the given number of digits. -/
def fixedHex : Nat -> Nat -> Source -> Except Error (Char × Source)
  | 0, value, s => do
      let c <- scalar? value
      return (c, s)
  | digits + 1, value, s =>
      match s.rest with
      | [] => .error .badEscape
      | c :: _ =>
          match Text.hexValue? c with
          | none => .error .badEscape
          | some d => fixedHex digits (16 * value + d) (if digits == 0 then s.skip 1 else s.next)

def isMeta (c : Char) : Bool :=
  ['\\', '.', '+', '*', '?', '(', ')', '|', '[', ']', '\x7b', '\x7d', '^', '$', '#', '&', '-',
    '~'].contains c

/-- The characters that stand for themselves behind a backslash. -/
def isEscapable (c : Char) : Bool :=
  isMeta c || (c.toNat < 0x80 && !c.isAlphanum && c != '<' && c != '>')

/-- What a backslash and the characters behind it mean. -/
inductive Escape where
  | char (c : Char) (isByte : Bool)
  | set (ranges : CharSet)
  | look (condition : Look)

def applyCase (flags : Flags) (s : CharSet) : CharSet :=
  if !flags.ignoreCase then s
  else if flags.unicode then s.foldCase
  else s.foldAsciiCase

def propertySet (flags : Flags) (negated : Bool) (found : Option CharSet) :
    Except Error CharSet :=
  match found with
  | none => .error .unknownProperty
  | some s =>
      if !flags.unicode then .error .notText
      else
        let s := applyCase flags s
        .ok (if negated then s.complement else s)

def findSplit? (mark : List Char) : List Char -> List Char -> Option (List Char × List Char)
  | _, [] => none
  | before, c :: rest =>
      if mark.isPrefixOf (c :: rest) then
        some (before.reverse, (c :: rest).drop mark.length)
      else findSplit? mark (c :: before) rest

/-- The set that the text between the braces of a property names. -/
def bracedProperty (flags : Flags) (negated : Bool) (name : List Char) :
    Except Error CharSet :=
  let valued (negated : Bool) (parts : List Char × List Char) :=
    propertySet flags negated (CharSet.valued? (String.ofList parts.1) (String.ofList parts.2))
  match findSplit? ['!', '='] [] name with
  | some parts => valued (!negated) parts
  | none =>
      match findSplit? [':'] [] name with
      | some parts => valued negated parts
      | none =>
          match findSplit? ['='] [] name with
          | some parts => valued negated parts
          | none => propertySet flags negated (CharSet.named? (String.ofList name))

/-- The characters up to a closing brace. -/
def upToBrace : Nat -> List Char -> Source -> Except Error (List Char × Source)
  | 0, _, _ => .error .stepsExhausted
  | steps + 1, read, s =>
      match s.rest with
      | [] => .error .badEscape
      | '\x7d' :: _ => .ok (read.reverse, s.skip 1)
      | c :: _ => upToBrace steps (c :: read) s.next

def propertyEscape (negated : Bool) (s : Source) : Except Error (CharSet × Source) :=
  match s.rest with
  | [] => .error .badEscape
  | '\x7b' :: _ => do
      let (name, s) <- upToBrace (s.rest.length + 1) [] s.next
      let set <- bracedProperty s.flags negated name
      return (set, s)
  | '\\' :: _ => .error .badEscape
  | c :: _ => do
      let set <- propertySet s.flags negated (CharSet.named? (String.singleton c))
      return (set, s.skip 1)

/-- A set such as the digits or its complement; bytes have no complement in text. -/
def shorthand (flags : Flags) (negated : Bool) (unicode ascii : CharSet) :
    Except Error CharSet :=
  if flags.unicode then .ok (if negated then unicode.complement else unicode)
  else if negated then .error .notText
  else .ok ascii

def isBoundaryNameChar (c : Char) : Bool :=
  c.isAlpha || c == '-'

/-- A boundary with a name in braces; none where the braces hold a count instead. -/
def namedBoundary? (s : Source) : Except Error (Option (Look × Source)) :=
  match s.rest with
  | '\x7b' :: _ =>
      let inner := s.next
      match inner.rest with
      | [] => .error .badEscape
      | c :: _ =>
          if !isBoundaryNameChar c then .ok none
          else
            let name := inner.rest.takeWhile isBoundaryNameChar
            let after := inner.skip name.length
            if after.rest.head? != some '\x7d' then .error .badEscape
            else
              let u := s.flags.unicode
              let look? := match String.ofList name with
                | "start" => some (Look.wordStart u)
                | "end" => some (Look.wordEnd u)
                | "start-half" => some (Look.wordStartHalf u)
                | "end-half" => some (Look.wordEndHalf u)
                | _ => none
              match look? with
              | some look => .ok (some (look, after.skip 1))
              | none => .error .badEscape
  | _ => .ok none

def hexEscape (digits : Nat) (s : Source) : Except Error (Escape × Source) :=
  let s := s.next
  match s.rest with
  | [] => .error .badEscape
  | '\x7b' :: _ => do
      let (c, s) <- bracedHex (s.rest.length + 1) none s.next
      return (.char c false, s)
  | _ => do
      let (c, s) <- fixedHex digits 0 s
      return (.char c (digits == 2), s)

/-- An escape; the source stands behind the backslash. -/
def escape (s : Source) : Except Error (Escape × Source) :=
  let u := s.flags.unicode
  match s.rest with
  | [] => .error .badEscape
  | c :: _ =>
      let set (negated : Bool) (unicode ascii : CharSet) : Except Error (Escape × Source) := do
        let r <- shorthand s.flags negated unicode ascii
        return (.set r, s.skip 1)
      match c with
      | 'x' => hexEscape 2 s
      | 'u' => hexEscape 4 s
      | 'U' => hexEscape 8 s
      | 'p' => do
          let (r, s) <- propertyEscape false s.next
          return (.set r, s)
      | 'P' => do
          let (r, s) <- propertyEscape true s.next
          return (.set r, s)
      | 'd' => set false CharSet.digit CharSet.asciiDigit
      | 's' => set false CharSet.space CharSet.asciiSpace
      | 'w' => set false CharSet.word CharSet.asciiWord
      | 'D' => set true CharSet.digit CharSet.asciiDigit
      | 'S' => set true CharSet.space CharSet.asciiSpace
      | 'W' => set true CharSet.word CharSet.asciiWord
      | 'a' => .ok (.char '\x07' false, s.skip 1)
      | 'f' => .ok (.char '\x0c' false, s.skip 1)
      | 't' => .ok (.char '\t' false, s.skip 1)
      | 'n' => .ok (.char '\n' false, s.skip 1)
      | 'r' => .ok (.char '\r' false, s.skip 1)
      | 'v' => .ok (.char '\x0b' false, s.skip 1)
      | 'A' => .ok (.look .textStart, s.skip 1)
      | 'z' => .ok (.look .textEnd, s.skip 1)
      | 'B' => .ok (.look (.notWordBoundary u), s.skip 1)
      | '<' => .ok (.look (.wordStart u), s.skip 1)
      | '>' => .ok (.look (.wordEnd u), s.skip 1)
      | 'b' => do
          match <- namedBoundary? (s.skip 1) with
          | some (look, s) => return (.look look, s)
          | none => return (.look (.wordBoundary u), s.skip 1)
      | c =>
          if isEscapable c then .ok (.char c false, s.skip 1)
          else if c.isDigit then .error .backReference
          else .error .badEscape

/-!
# Bracketed sets
-/

inductive SetItem where
  | char (c : Char)
  | set (ranges : CharSet)

/-- A character in a set; bytes of more than seven bits are not text. -/
def setChar (flags : Flags) (c : Char) : Except Error SetItem :=
  if !flags.unicode && 0x80 <= c.toNat then .error .notText else .ok (.char c)

def setItem (s : Source) : Except Error (SetItem × Source) :=
  match s.rest with
  | [] => .error .openSet
  | '\\' :: _ => do
      let (e, s) <- escape (s.skip 1)
      match e with
      | .char c _ =>
          let item <- setChar s.flags c
          return (item, s)
      | .set ranges => return (.set ranges, s)
      | .look _ => throw .badEscape
  | c :: _ => do
      let item <- setChar s.flags c
      return (item, s.skip 1)

/-- One item of a set, or a range between two characters. -/
def setRange (s : Source) : Except Error (CharSet × Source) := do
  let (first, s) <- setItem s
  let s := s.settle
  let alone : CharSet := match first with
    | .char c => CharSet.single c
    | .set ranges => ranges
  match s.rest with
  | [] => throw .openSet
  | '-' :: _ =>
      let after := s.next
      match after.rest with
      | ']' :: _ => return (alone, s)
      | '-' :: _ => return (alone, s)
      | [] => throw .openSet
      | _ =>
          let (last, s) <- setItem after
          match first, last with
          | .char a, .char b =>
              if a.toNat <= b.toNat then return ([(a.toNat, b.toNat)], s) else throw .badRange
          | _, _ => throw .badRange
  | _ => return (alone, s)

/-- A named set of ASCII characters between colons, at the source. -/
def asciiSet? (s : Source) : Option (CharSet × Source) :=
  match s.rest with
  | '[' :: ':' :: rest =>
      let negated := rest.head? == some '^'
      let rest := if negated then rest.drop 1 else rest
      let name := rest.takeWhile (· != ':')
      match rest.drop name.length with
      | ':' :: ']' :: after =>
          (CharSet.asciiClass? (String.ofList name)).map fun set =>
            let set := applyCase s.flags set
            (if negated then set.complement else set, { s with rest := after })
      | _ => none
  | _ => none

inductive SetOp where
  | intersection
  | difference
  | symmetricDifference

def SetOp.apply (op : SetOp) (flags : Flags) (a b : CharSet) : CharSet :=
  let a := applyCase flags a
  let b := applyCase flags b
  match op with
  | intersection => a.intersection b
  | difference => a.difference b
  | symmetricDifference => a.symmetricDifference b

/-- What has been read of a set: an operand with its operator, and the operand under
way. -/
structure SetUnderWay where
  negated : Bool
  pending : Option (CharSet × SetOp) := none
  items : CharSet := []

namespace SetUnderWay

def add (w : SetUnderWay) (s : CharSet) : SetUnderWay :=
  { w with items := w.items ++ s }

def operand (w : SetUnderWay) (flags : Flags) : CharSet :=
  match w.pending with
  | some (left, op) => op.apply flags left (CharSet.normal w.items)
  | none => CharSet.normal w.items

def operator (w : SetUnderWay) (flags : Flags) (op : SetOp) : SetUnderWay :=
  { w with pending := some (w.operand flags, op), items := [] }

def finish (w : SetUnderWay) (flags : Flags) : Except Error CharSet :=
  let s := applyCase flags (w.operand flags)
  if w.negated then
    if flags.unicode then .ok s.complement else .error .notText
  else if !flags.unicode && !s.isAscii then .error .notText
  else .ok s

end SetUnderWay

/-- Hyphens directly behind the opening of a set. -/
def leadingHyphens : Nat -> SetUnderWay -> Source -> SetUnderWay × Source
  | 0, w, s => (w, s)
  | steps + 1, w, s =>
      match s.rest with
      | '-' :: _ => leadingHyphens steps (w.add (CharSet.single '-')) s.next
      | _ => (w, s)

/-- Opens a set; the source stands at its bracket. -/
def openSet (s : Source) : Except Error (SetUnderWay × Source) :=
  let s := s.next
  let negated := s.rest.head? == some '^'
  let s := if negated then s.next else s
  let (w, s) := leadingHyphens s.rest.length { negated := negated } s
  match s.rest with
  | [] => .error .openSet
  | ']' :: _ =>
      if w.items.isEmpty then
        let s := s.next
        if s.rest.isEmpty then .error .openSet else .ok (w.add (CharSet.single ']'), s)
      else .ok (w, s)
  | _ => .ok (w, s)

/-- Reads the sets under way, the innermost first. -/
def setFrom : Nat -> SetUnderWay -> List SetUnderWay -> Source ->
    Except Error (CharSet × Source)
  | 0, _, _, _ => .error .stepsExhausted
  | steps + 1, w, outer, s =>
      let s := s.settle
      match s.rest with
      | [] => .error .openSet
      | '[' :: _ =>
          match asciiSet? s with
          | some (set, s) =>
              if !s.flags.unicode && !set.isAscii then .error .notText
              else setFrom steps (w.add set) outer s
          | none =>
              if outer.length >= 249 then .error .tooDeep
              else do
                let (inner, s) <- openSet s
                setFrom steps inner (w :: outer) s
      | ']' :: _ => do
          let set <- w.finish s.flags
          match outer with
          | [] => return (set, s.skip 1)
          | around :: outer => setFrom steps (around.add set) outer (s.skip 1)
      | '&' :: '&' :: _ => setFrom steps (w.operator s.flags .intersection) outer (s.skip 2)
      | '-' :: '-' :: _ => setFrom steps (w.operator s.flags .difference) outer (s.skip 2)
      | '~' :: '~' :: _ =>
          setFrom steps (w.operator s.flags .symmetricDifference) outer (s.skip 2)
      | _ => do
          let (set, s) <- setRange s
          setFrom steps (w.add set) outer s

def bracketed (s : Source) : Except Error (CharSet × Source) := do
  let (w, s) <- openSet s
  setFrom (s.rest.length + 1) w [] s

/-!
# Groups and counts
-/

def Flags.assign (f : Flags) (flag : Char) (value : Bool) : Option Flags :=
  match flag with
  | 'i' => some { f with ignoreCase := value }
  | 'm' => some { f with multiLine := value }
  | 's' => some { f with dotNewline := value }
  | 'U' => some f
  | 'u' => some { f with unicode := value }
  | 'R' => some { f with crlf := value }
  | 'x' => some { f with verbose := value }
  | _ => none

/-- Flags up to a colon or a closing parenthesis, which ends them. -/
def flagsFrom : Nat -> Flags -> Bool -> List Char -> List Char ->
    Except Error (Flags × List Char × List Char)
  | 0, _, _, _, _ => .error .stepsExhausted
  | steps + 1, flags, value, seen, cs =>
      match cs with
      | [] => .error .badFlag
      | c :: rest =>
          if c == ':' || c == ')' then
            if seen.head? == some '-' then .error .badFlag else .ok (flags, seen, cs)
          else if seen.contains c then .error .badFlag
          else if c == '-' then flagsFrom steps flags false (c :: seen) rest
          else
            match flags.assign c value with
            | some flags => flagsFrom steps flags value (c :: seen) rest
            | none => .error .badFlag

def alphabeticRanges : Array (Nat × Nat) :=
  (CharSet.property "alphabetic").toArray

def numericRanges : Array (Nat × Nat) :=
  (CharSet.ofCategories ["Nd", "Nl", "No"]).toArray

def isNameChar (first : Bool) (c : Char) : Bool :=
  c == '_' || Unicode.inRanges alphabeticRanges c.toNat ||
    (!first && (c == '.' || c == '[' || c == ']' || Unicode.inRanges numericRanges c.toNat))

/-- The name of a group, up to its closing bracket. -/
def groupName (s : Source) : Except Error Source :=
  let name := s.rest.takeWhile (· != '>')
  let after := s.rest.drop name.length
  let valid := match name with
    | [] => false
    | first :: rest => isNameChar true first && rest.all (isNameChar false)
  if after.isEmpty || !valid || s.names.contains name then .error .badGroup
  else .ok { s with rest := after.drop 1, names := name :: s.names }

inductive Opening where
  | group (captures : Bool) (s : Source)
  | flags (s : Source)

/-- What stands behind an opening parenthesis. -/
def opening (s : Source) : Except Error Opening :=
  let s := s.next
  if s.startsWith "?=" || s.startsWith "?!" || s.startsWith "?<=" || s.startsWith "?<!" then
    .error .lookAround
  else if s.startsWith "?P<" then (groupName (s.skip 3)).map (.group true)
  else if s.startsWith "?<" then (groupName (s.skip 2)).map (.group true)
  else
    match s.rest with
    | '?' :: rest => do
        if rest.isEmpty then
          throw .openGroup
        let (flags, seen, after) <- flagsFrom (rest.length + 1) s.flags true [] rest
        match after with
        | ')' :: rest =>
            if seen.isEmpty then throw .nothingToRepeat
            else return .flags { s with rest := rest, flags := flags }
        | _ => return .group false { s with rest := after.drop 1, flags := flags }
    | _ => .ok (.group true s)

def skipCountBlanks (s : Source) : Source :=
  { s with rest := s.rest.dropWhile Text.isBlank }

/-- The digits of a count, with the blanks around them. -/
def countDigits : Nat -> List Char -> Source -> List Char × Source
  | 0, read, s => (read.reverse, s)
  | steps + 1, read, s =>
      match s.rest with
      | c :: _ => if c.isDigit then countDigits steps (c :: read) s.next else (read.reverse, s)
      | [] => (read.reverse, s)

def count (s : Source) : Except Error (Option Nat × Source) :=
  let (digits, s) := countDigits s.rest.length [] (skipCountBlanks s)
  let s := skipCountBlanks s
  let n := digits.foldl (fun n c => 10 * n + (c.toNat - 0x30)) 0
  if digits.isEmpty then .ok (none, s)
  else if n < Nat.pow 2 32 then .ok (some n, s)
  else .error .badCount

/-- A count in braces: its bounds and the source behind it. -/
def counted (s : Source) : Except Error (Nat × Option Nat × Source) := do
  let (first, s) <- count s.next
  let (least, most, s) <- do
    match s.rest, first with
    | ',' :: _, _ =>
        let s := s.next
        match s.rest, first with
        | '\x7d' :: _, some n => pure (n, none, s)
        | _, some n =>
            let (last, s) <- count s
            match last with
            | some m => pure (n, some m, s)
            | none => throw Error.badCount
        | _, none => throw .badCount
    | _, some n => pure (n, some n, s)
    | _, none => throw .badCount
  if s.rest.head? != some '\x7d' then
    throw .badCount
  match most with
  | some m => if m < least then throw .badCount
  | none => pure ()
  return (least, most, s.next)

/-- Past the mark that makes a repetition prefer few rounds, which does not change
what can be found. -/
def skipLazy (s : Source) : Source :=
  match s.rest with
  | '?' :: _ => s.skip 1
  | _ => s

/-!
# Expressions
-/

/-- A member of a sequence.  Setting flags is one that nothing can repeat. -/
inductive Item where
  | expr (e : Expr)
  | setFlags

def Item.expr? : Item -> Option Expr
  | expr e => some e
  | setFlags => none

/-- The sequence of the given items, which come last first. -/
def sequence (items : List Item) : Expr :=
  match (items.filterMap Item.expr?) with
  | [] => .empty
  | last :: before => before.foldl (fun e first => .seq first e) last

def alternatives (before : List Expr) (last : Expr) : Expr :=
  before.foldl (fun e left => .alt left e) last

/-- A repetition.  One of an expression that only matches the empty text needs at
most one round. -/
def repeatLast (items : List Item) (least : Nat) (most : Option Nat) :
    Except Error (List Item) :=
  match items with
  | .expr e :: before =>
      let e' : Expr :=
        if e.maxLength? == some 0 then
          .repeated e (min least 1) (some (match most with
            | some m => min m 1
            | none => 1))
        else .repeated e least most
      .ok (.expr e' :: before)
  | _ => .error .nothingToRepeat

def charExpr (flags : Flags) (c : Char) (isByte : Bool) : Except Error Expr :=
  if !flags.unicode && isByte && 0x80 <= c.toNat then .error .notText
  else if !flags.unicode && 0x80 <= c.toNat then .ok (.set (CharSet.single c))
  else .ok (.set (applyCase flags (CharSet.single c)))

def dotExpr (flags : Flags) : Except Error Expr :=
  if !flags.unicode then .error .notText
  else if flags.dotNewline then .ok (.set [(0, CharSet.lastChar)])
  else if flags.crlf then .ok (.set (CharSet.ofChars ['\r', '\n']).complement)
  else .ok (.set (CharSet.single '\n').complement)

def startLook (flags : Flags) : Look :=
  if !flags.multiLine then .textStart else if flags.crlf then .crlfStart else .lineStart

def endLook (flags : Flags) : Look :=
  if !flags.multiLine then .textEnd else if flags.crlf then .crlfEnd else .lineEnd

/-- A single character, a set or a condition. -/
def primitive (s : Source) : Except Error (Expr × Source) :=
  match s.rest with
  | [] => .ok (.empty, s)
  | '\\' :: _ => do
      let (e, s) <- escape (s.skip 1)
      match e with
      | .char c isByte =>
          let e <- charExpr s.flags c isByte
          return (e, s)
      | .set ranges => return (.set ranges, s)
      | .look condition => return (.look condition, s)
  | '.' :: _ => do
      let e <- dotExpr s.flags
      return (e, s.skip 1)
  | '^' :: _ => .ok (.look (startLook s.flags), s.skip 1)
  | '$' :: _ => .ok (.look (endLook s.flags), s.skip 1)
  | c :: _ => do
      let e <- charExpr s.flags c false
      return (e, s.skip 1)

/-- A group under way around the one being read. -/
structure Frame where
  captures : Bool
  before : List Expr
  items : List Item
  flags : Flags

/-- Reads an expression: `before` are the finished alternatives and `items` the
members of the one under way, both last first. -/
def exprFrom : Nat -> List Expr -> List Item -> List Frame -> Source -> Except Error Expr
  | 0, _, _, _, _ => .error .stepsExhausted
  | steps + 1, before, items, outer, s =>
      let s := s.settle
      match s.rest with
      | [] =>
          if outer.isEmpty then .ok (alternatives before (sequence items))
          else .error .openGroup
      | '(' :: _ => do
          match <- opening s with
          | .group captures inner =>
              exprFrom steps [] [] (⟨captures, before, items, s.flags⟩ :: outer) inner
          | .flags s => exprFrom steps before (.setFlags :: items) outer s
      | ')' :: _ =>
          match outer with
          | [] => .error .strayParenthesis
          | f :: outer =>
              let body := Expr.group f.captures (alternatives before (sequence items))
              exprFrom steps f.before (.expr body :: f.items) outer
                { s.skip 1 with flags := f.flags }
      | '|' :: _ => exprFrom steps (sequence items :: before) [] outer (s.skip 1)
      | '[' :: _ => do
          let (set, s) <- bracketed s
          exprFrom steps before (.expr (.set set) :: items) outer s
      | '?' :: _ => do
          let items <- repeatLast items 0 (some 1)
          exprFrom steps before items outer (skipLazy (s.skip 1))
      | '*' :: _ => do
          let items <- repeatLast items 0 none
          exprFrom steps before items outer (skipLazy (s.skip 1))
      | '+' :: _ => do
          let items <- repeatLast items 1 none
          exprFrom steps before items outer (skipLazy (s.skip 1))
      | '\x7b' :: _ => do
          if items.head?.bind Item.expr? |>.isNone then
            throw .nothingToRepeat
          let (least, most, s) <- counted s
          let items <- repeatLast items least most
          exprFrom steps before items outer (skipLazy s)
      | _ => do
          let (e, s) <- primitive s
          exprFrom steps before (.expr e :: items) outer s

def Expr.parse (text : String) : Except Error Expr :=
  let cs := text.toList
  exprFrom (cs.length + 1) [] [] [] { rest := cs }

end Pattern
end Colloquy
