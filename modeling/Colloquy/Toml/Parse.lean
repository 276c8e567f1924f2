import Colloquy.Toml.Layout
import Colloquy.Toml.Scalar

/-!
# Reading TOML

A document is a sequence of statements, each on lines of its own: a header opens a table
or the next table of an array, and an assignment gives a value to a key of the table that
is open.  Readers that call each other carry a number of steps that the length of the
text bounds.
-/

namespace Colloquy
namespace Toml

/-!
# Keys
-/

def simpleKey? : Reader String
  | '"' :: rest => basicFrom (rest.length + 1) [] rest
  | '\'' :: rest => literal? rest
  | cs =>
      let name := cs.takeWhile isBareChar
      if name.isEmpty then none else some (String.ofList name, cs.dropWhile isBareChar)

/-- The names of a dotted key, and the text behind it and the blanks after it. -/
def keyFrom : Nat -> Reader (List String)
  | 0, _ => none
  | steps + 1, cs =>
      match simpleKey? (skipBlanks cs) with
      | none => none
      | some (name, rest) =>
          match skipBlanks rest with
          | '.' :: rest => (keyFrom steps rest).map fun r => (name :: r.1, r.2)
          | rest => some ([name], rest)

/-- The names of a key before the last, and the last. -/
def key? (cs : List Char) : Option ((List String × String) × List Char) := do
  let (names, rest) <- keyFrom (cs.length + 1) cs
  let last <- names.getLast?
  some ((names.dropLast, last), rest)

/-!
# Blanks, comments and line ends
-/

/-- The text behind blanks, comments and line ends. -/
def skipGap (comment : Bool) : List Char -> Option (List Char)
  | [] => some []
  | '\n' :: rest => skipGap false rest
  | '\r' :: '\n' :: rest => skipGap false rest
  | c :: rest =>
      if comment then if isText c then skipGap true rest else none
      else if isBlank c then skipGap false rest
      else if c == '#' then skipGap true rest
      else some (c :: rest)

/-- The text behind the end of a line, before which only blanks and a comment stand. -/
def lineEnd? (comment : Bool) : List Char -> Option (List Char)
  | [] => some []
  | '\n' :: rest => some rest
  | '\r' :: '\n' :: rest => some rest
  | c :: rest =>
      if comment then if isText c then lineEnd? true rest else none
      else if isBlank c then lineEnd? false rest
      else if c == '#' then lineEnd? true rest
      else none

/-!
# Values
-/

/-- How deep arrays and tables may lie in each other inside of a value. -/
def maxDepth : Nat := 80

mutual

def valueFrom : Nat -> Nat -> Reader Value
  | 0, _, _ => none
  | steps + 1, depth, cs =>
      match cs with
      | [] => none
      | c :: rest =>
          if c == '"' || c == '\'' then (string? cs).map fun r => (.string r.1, r.2)
          else if c == '[' then
            if depth == 0 then none
            else (itemsFrom steps (depth - 1) rest).map fun r => (.array r.1, r.2)
          else if c == '\x7b' then
            if depth == 0 then none
            else
              (fieldsFrom steps (depth - 1) [] rest).map fun r => (.table r.1.complete, r.2)
          else bare? cs

/-- The items of an array up to its closing bracket. -/
def itemsFrom : Nat -> Nat -> Reader (List Value)
  | 0, _, _ => none
  | steps + 1, depth, cs =>
      match skipGap false cs with
      | none => none
      | some (']' :: rest) => some ([], rest)
      | some cs =>
          match valueFrom steps depth cs with
          | none => none
          | some (item, rest) =>
              match skipGap false rest with
              | some (',' :: rest) =>
                  (itemsFrom steps depth rest).map fun r => (item :: r.1, r.2)
              | some (']' :: rest) => some ([item], rest)
              | _ => none

/-- The fields of a table up to its closing brace, added to `read`. -/
def fieldsFrom : Nat -> Nat -> Layout -> Reader Layout
  | 0, _, _, _ => none
  | steps + 1, depth, read, cs =>
      match skipGap false cs with
      | none => none
      | some ('\x7d' :: rest) => some (read, rest)
      | some cs =>
          match key? cs with
          | some ((path, name), '=' :: rest) =>
              match valueFrom steps depth (skipBlanks rest) with
              | none => none
              | some (v, rest) =>
                  match read.assign path name v .header with
                  | none => none
                  | some read =>
                      match skipGap false rest with
                      | some (',' :: rest) => fieldsFrom steps depth read rest
                      | some ('\x7d' :: rest) => some (read, rest)
                      | _ => none
          | _ => none

end

/-!
# Statements
-/

inductive Statement where
  | openTable (path : List String) (name : String)
  | openItem (path : List String) (name : String)
  | assign (path : List String) (name : String) (value : Value)

def statement? (cs : List Char) : Option (Statement × List Char) :=
  match cs with
  | '[' :: '[' :: rest =>
      match key? rest with
      | some ((path, name), ']' :: ']' :: rest) => some (.openItem path name, rest)
      | _ => none
  | '[' :: rest =>
      match key? rest with
      | some ((path, name), ']' :: rest) => some (.openTable path name, rest)
      | _ => none
  | cs =>
      match key? cs with
      | some ((path, name), '=' :: rest) =>
          (valueFrom (2 * rest.length + 2) maxDepth (skipBlanks rest)).map fun r =>
            (.assign path name r.1, r.2)
      | _ => none

/-- The statements of a whole text. -/
def statementsFrom : Nat -> List Char -> Option (List Statement)
  | 0, _ => none
  | steps + 1, cs =>
      match skipGap false cs with
      | none => none
      | some [] => some []
      | some cs =>
          match statement? cs with
          | none => none
          | some (s, rest) =>
              match lineEnd? false rest with
              | none => none
              | some rest => (statementsFrom steps rest).map (s :: ·)

/-- What the statements so far have made, and the path of the table that is open. -/
structure Progress where
  root : Layout := []
  opened : List String := []

namespace Progress

def follow (p : Progress) : Statement -> Option Progress
  | .openTable path name =>
      (p.root.openTable path name).map fun root => ⟨root, path ++ [name]⟩
  | .openItem path name =>
      (p.root.openItem path name).map fun root => ⟨root, path ++ [name]⟩
  | .assign path name v =>
      (p.root.within false p.opened (Layout.assign path name v) .header).map fun root =>
        { p with root := root }

end Progress

/-- The table that a whole text describes; a byte order mark may come first. -/
def parse? (text : List Char) : Option Table :=
  let body := match text with
    | '\uFEFF' :: rest => rest
    | _ => text
  (statementsFrom (body.length + 1) body).bind fun statements =>
    (statements.foldlM Progress.follow {}).map fun p => p.root.complete

end Toml
end Colloquy
