import Colloquy.Text.Blank
import Colloquy.Text.Bytes
import Colloquy.Unicode.Category
import Colloquy.Unicode.Property
import Colloquy.Variables

/-!
# Files of variables

A line of such a file gives a value to a variable that is not set yet.  A value may be
quoted, and then go on over several lines; outside of single quotation marks a dollar
sign stands before the name of a variable whose value is inserted.  Reading ends at the
first line that cannot be read.
-/

namespace Colloquy
namespace Variables

/-!
# Lines that belong together
-/

/-- What surrounds a character, as far as it tells whether a line goes on. -/
inductive Mark where
  | plain
  | blank
  | escape
  | weak
  | weakEscape
  | strong
  | strongEscape
  | comment
deriving DecidableEq, Repr

namespace Mark

/-- What comes after a character outside of quotation marks. -/
def afterPlain (c : Char) : Mark :=
  match c with
  | '\\' => escape
  | '"' => weak
  | '\'' => strong
  | _ => plain

def next (m : Mark) (c : Char) : Mark :=
  match m with
  | plain =>
      if Text.isBlank c && c != '\n' && c != '\r' then blank else afterPlain c
  | blank => if c == '#' then comment else afterPlain c
  | escape => plain
  | weak => if c == '\\' then weakEscape else if c == '"' then plain else weak
  | weakEscape => weak
  | strong => if c == '\\' then strongEscape else if c == '\'' then plain else strong
  | strongEscape => strong
  | comment => comment

/-- The part of a line before a comment, and what the line ends in. -/
def scan (m : Mark) : List Char -> List Char × Mark
  | [] => ([], m)
  | c :: rest =>
      match m.next c with
      | comment => ([], comment)
      | m =>
          let (read, last) := scan m rest
          (c :: read, last)

end Mark

/-- The lines of a file, each with its line feed. -/
def linesWithEnds (bytes : List UInt8) : List (List UInt8) :=
  let pieces := bytes.splitOn 10
  let ended := pieces.dropLast.map (· ++ [10])
  match pieces.getLast? with
  | none => ended
  | some [] => ended
  | some last => ended ++ [last]

def dropLineEnd (cs : List Char) : List Char :=
  match cs.reverse with
  | '\n' :: '\r' :: rest => rest.reverse
  | '\n' :: rest => rest.reverse
  | _ => cs

/-- The lines that are put together from those of a file; nothing stands for one that
cannot be read. -/
def wholeLines (m : Mark) (read : List Char) :
    List (Option (List Char)) -> List (Option (List Char))
  | [] => if m == .plain then [] else [none]
  | none :: _ => [none]
  | some line :: rest =>
      if (Text.dropBlanks (read ++ line)).head? == some '#' then
        some [] :: wholeLines .plain [] rest
      else
        match m.scan line with
        | (before, .comment) => some (read ++ before) :: wholeLines .plain [] rest
        | (_, .plain) => some (dropLineEnd (read ++ line)) :: wholeLines .plain [] rest
        | (_, m) => wholeLines m (read ++ line) rest

/-!
# Values
-/

/-- How the characters of a value are read. -/
inductive Reading where
  | plain
  | weak
  | strong
  /-- Only blanks and a comment may follow. -/
  | ended
deriving DecidableEq, Repr

/-- The name of a variable to insert, as far as it is read. -/
inductive Insertion where
  | none
  | bare (name : List Char)
  | braced (name : List Char)

structure ValueReader where
  reading : Reading := .plain
  escaped : Bool := false
  insertion : Insertion := .none
  /-- The value so far, the last character first. -/
  read : List Char := []

def alphabetic : Array (Nat × Nat) :=
  (Unicode.rangesOfText Unicode.alphabeticText).toArray

def isNameChar (c : Char) : Bool :=
  c.isAlphanum ||
    (0x80 <= c.toNat &&
      (Unicode.inRanges alphabetic c.toNat ||
        match Unicode.category c with
        | .decimalNumber => true
        | .letterNumber => true
        | .otherNumber => true
        | _ => false))

namespace ValueReader

def push (r : ValueReader) (c : Char) : ValueReader :=
  { r with read := c :: r.read }

/-- Inserts the value of a variable, which is empty if the variable is not set. -/
def insert (v : Variables) (r : ValueReader) (name : List Char) : ValueReader :=
  { r with
    insertion := .none
    read := ((v (String.ofList name)).getD "").toList.reverse ++ r.read }

def escape (r : ValueReader) (c : Char) : Option ValueReader :=
  let r := { r with escaped := false }
  if c == 'n' then some (r.push '\n')
  else if "\\'\"$ ".toList.contains c then some (r.push c)
  else none

def plain (r : ValueReader) (c : Char) : ValueReader :=
  match r.reading, c with
  | _, '$' => { r with insertion := .bare [] }
  | _, '\\' => { r with escaped := true }
  | .weak, '"' => { r with reading := .plain }
  | .weak, c => r.push c
  | _, '\'' => { r with reading := .strong }
  | _, '"' => { r with reading := .weak }
  | _, ' ' => { r with reading := .ended }
  | _, '\t' => { r with reading := .ended }
  | _, c => r.push c

/-- A character behind a dollar sign. -/
def naming (v : Variables) (r : ValueReader) (c : Char) : ValueReader :=
  match r.insertion with
  | .none => r.plain c
  | .bare name =>
      if isNameChar c then { r with insertion := .bare (name ++ [c]) }
      else if c == '\x7b' && name.isEmpty then { r with insertion := .braced [] }
      else
        let r := insert v r name
        if c == '$' then { r with insertion := .bare [] } else r.push c
  | .braced name =>
      if c == '\x7d' then insert v r name else { r with insertion := .braced (name ++ [c]) }

def finish? (v : Variables) (r : ValueReader) : Option (List Char) :=
  match r.reading, r.insertion with
  | .weak, _ => none
  | .strong, _ => none
  | _, .braced _ => none
  | _, .bare name => some (insert v r name).read.reverse
  | _, .none => some r.read.reverse

/-- The value that the rest of a line writes. -/
def readAll (v : Variables) (r : ValueReader) : List Char -> Option (List Char)
  | [] => r.finish? v
  | c :: rest =>
      if r.reading == .ended then
        if c == ' ' || c == '\t' then readAll v r rest
        else if c == '#' then r.finish? v
        else none
      else if r.escaped then (r.escape c).bind fun r => readAll v r rest
      else if r.reading == .strong then
        readAll v (if c == '\'' then { r with reading := .plain } else r.push c) rest
      else readAll v (r.naming v c) rest

end ValueReader

/-!
# Assignments
-/

def isKeyChar (c : Char) : Bool :=
  c.isAlphanum || c == '_' || c == '.'

/-- A name and the text behind it and the blanks after it. -/
def key? (cs : List Char) : Option (List Char × List Char) :=
  match cs with
  | [] => none
  | c :: _ =>
      if c.isAlpha || c == '_' then
        some (cs.takeWhile isKeyChar, Text.dropBlanks (cs.dropWhile isKeyChar))
      else none

/-- The name and the text behind the equals sign; the word `export` may come first. -/
def target? (cs : List Char) : Option (List Char × List Char) := do
  let (name, rest) <- key? cs
  match rest with
  | '=' :: rest => some (name, rest)
  | rest =>
      if name == "export".toList then
        match <- key? rest with
        | (name, '=' :: rest) => some (name, rest)
        | _ => none
      else none

/-- The assignment on a line, which may have none. -/
def assignment? (v : Variables) (line : List Char) : Option (Option (String × String)) :=
  let body := Text.strip line
  match body with
  | [] => some none
  | '#' :: _ => some none
  | _ => do
      let (name, rest) <- target? body
      let name := String.ofList name
      match Text.dropBlanks rest with
      | [] => some (some (name, ""))
      | '#' :: _ => some (some (name, ""))
      | rest => (ValueReader.readAll v {} rest).map fun value => some (name, String.ofList value)

/-- Follows assignments up to the first line that cannot be read. -/
def followLines (v : Variables) : List (Option (List Char)) -> Variables
  | [] => v
  | none :: _ => v
  | some line :: rest =>
      match assignment? v line with
      | none => v
      | some none => followLines v rest
      | some (some (name, value)) => followLines (v.setNew name value) rest

/-- The variables with those of a file, in which a byte order mark may come first. -/
def withFile (v : Variables) (bytes : List UInt8) : Variables :=
  let body := match bytes with
    | 0xEF :: 0xBB :: 0xBF :: rest => rest
    | _ => bytes
  followLines v (wholeLines .plain [] ((linesWithEnds body).map Text.decode?))

end Variables
end Colloquy
