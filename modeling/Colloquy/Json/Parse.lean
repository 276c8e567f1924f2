import Colloquy.Json
import Colloquy.Text.Hex

/-!
# Reading JSON

A reader takes a value from the start of a text and answers the rest.  Readers
that call each other carry a number of steps that the length of the text bounds.
-/

namespace Colloquy
namespace Json

abbrev Reader (α : Type) := List Char -> Option (α × List Char)

def isSpace (c : Char) : Bool :=
  c == ' ' || c == '\n' || c == '\r' || c == '\t'

def skipSpace (cs : List Char) : List Char :=
  cs.dropWhile isSpace

/-- The rest of a text that starts with `word`. -/
def after? (word : List Char) (cs : List Char) : Option (List Char) :=
  match word, cs with
  | [], cs => some cs
  | _ :: _, [] => none
  | w :: word, c :: cs => if w == c then after? word cs else none

/-!
# Numbers
-/

def digitValue (c : Char) : Nat :=
  c.toNat - 0x30

def digitsValue (cs : List Char) : Nat :=
  cs.foldl (fun n c => 10 * n + digitValue c) 0

/-- Digits of which only a lone zero may start with a zero. -/
def wholeDigits? (cs : List Char) : Option (List Char × List Char) :=
  match cs.span Char.isDigit with
  | ([], _) => none
  | ('0' :: _ :: _, _) => none
  | (digits, rest) => some (digits, rest)

def fraction? (cs : List Char) : Option (List Char × List Char) :=
  match cs with
  | '.' :: rest =>
      match rest.span Char.isDigit with
      | ([], _) => none
      | (digits, rest) => some (digits, rest)
  | _ => some ([], cs)

def exponentDigits? (negative : Bool) (cs : List Char) : Option (Int × List Char) :=
  match cs.span Char.isDigit with
  | ([], _) => none
  | (digits, rest) =>
      some (if negative then -(digitsValue digits : Int) else digitsValue digits, rest)

def exponent? (cs : List Char) : Option (Option Int × List Char) :=
  match cs with
  | 'e' :: rest => signed rest
  | 'E' :: rest => signed rest
  | _ => some (none, cs)
where
  signed (cs : List Char) : Option (Option Int × List Char) :=
    match cs with
    | '-' :: rest => (exponentDigits? true rest).map fun e => (some e.1, e.2)
    | '+' :: rest => (exponentDigits? false rest).map fun e => (some e.1, e.2)
    | _ => (exponentDigits? false cs).map fun e => (some e.1, e.2)

def numeral? (cs : List Char) : Option (Numeral × List Char) := do
  let negative := cs.head? == some '-'
  let (whole, cs) <- wholeDigits? (if negative then cs.drop 1 else cs)
  let (fraction, cs) <- fraction? cs
  let (exponent, cs) <- exponent? cs
  some
    ({ negative := negative
       digits := digitsValue (whole ++ fraction)
       exponent := exponent.getD 0 - fraction.length
       whole := fraction.isEmpty && exponent.isNone }, cs)

/-!
# Strings
-/

def hex4? (cs : List Char) : Option (Nat × List Char) :=
  let digits := cs.take 4
  if digits.length < 4 then none
  else (Text.hexNumber? digits).map fun n => (n, cs.drop 4)

/-- The character of an escape by number; one outside the first plane is written
as two halves. -/
def unicodeEscape? (cs : List Char) : Option (Char × List Char) := do
  let (first, rest) <- hex4? cs
  if 0xD800 <= first && first < 0xDC00 then
    match rest with
    | '\\' :: 'u' :: more =>
        let (second, rest) <- hex4? more
        if 0xDC00 <= second && second < 0xE000 then
          some (Char.ofNat (0x10000 + (first - 0xD800) * 0x400 + (second - 0xDC00)), rest)
        else none
    | _ => none
  else if 0xDC00 <= first && first < 0xE000 then none
  else some (Char.ofNat first, rest)

def simpleEscape? : Char -> Option Char
  | '"' => some '"'
  | '\\' => some '\\'
  | '/' => some '/'
  | 'b' => some '\x08'
  | 'f' => some '\x0c'
  | 'n' => some '\n'
  | 'r' => some '\r'
  | 't' => some '\t'
  | _ => none

/-- The characters up to the closing quotation mark, added to `read` in reverse. -/
def stringFrom : Nat -> List Char -> Reader (List Char)
  | 0, _, _ => none
  | _ + 1, _, [] => none
  | _ + 1, read, '"' :: rest => some (read.reverse, rest)
  | steps + 1, read, '\\' :: 'u' :: rest =>
      match unicodeEscape? rest with
      | some (c, rest) => stringFrom steps (c :: read) rest
      | none => none
  | steps + 1, read, '\\' :: c :: rest =>
      match simpleEscape? c with
      | some c => stringFrom steps (c :: read) rest
      | none => none
  | steps + 1, read, c :: rest =>
      if c.toNat < 0x20 || c == '\\' then none else stringFrom steps (c :: read) rest

def quoted? (steps : Nat) (cs : List Char) : Option (String × List Char) :=
  (stringFrom steps [] cs).map fun s => (String.ofList s.1, s.2)

/-!
# Values
-/

mutual

def valueFrom : Nat -> Reader Json
  | 0, _ => none
  | steps + 1, cs =>
      match skipSpace cs with
      | 'n' :: rest => (after? "ull".toList rest).map fun rest => (null, rest)
      | 't' :: rest => (after? "rue".toList rest).map fun rest => (bool true, rest)
      | 'f' :: rest => (after? "alse".toList rest).map fun rest => (bool false, rest)
      | '"' :: rest => (quoted? steps rest).map fun s => (string s.1, s.2)
      | '[' :: rest =>
          match skipSpace rest with
          | ']' :: rest => some (array [], rest)
          | rest => (itemsFrom steps rest).map fun r => (array r.1, r.2)
      | '\x7b' :: rest =>
          match skipSpace rest with
          | '\x7d' :: rest => some (object [], rest)
          | rest => (fieldsFrom steps rest).map fun r => (object r.1, r.2)
      | rest => (numeral? rest).map fun n => (number n.1, n.2)

def itemsFrom : Nat -> Reader (List Json)
  | 0, _ => none
  | steps + 1, cs =>
      match valueFrom steps cs with
      | none => none
      | some (item, rest) =>
          match skipSpace rest with
          | ',' :: rest => (itemsFrom steps rest).map fun r => (item :: r.1, r.2)
          | ']' :: rest => some ([item], rest)
          | _ => none

def fieldsFrom : Nat -> Reader (List (String × Json))
  | 0, _ => none
  | steps + 1, cs =>
      match skipSpace cs with
      | '"' :: rest =>
          match quoted? steps rest with
          | none => none
          | some (name, rest) =>
              match skipSpace rest with
              | ':' :: rest =>
                  match valueFrom steps rest with
                  | none => none
                  | some (value, rest) =>
                      match skipSpace rest with
                      | ',' :: rest =>
                          (fieldsFrom steps rest).map fun r => ((name, value) :: r.1, r.2)
                      | '\x7d' :: rest => some ([(name, value)], rest)
                      | _ => none
              | _ => none
      | _ => none

end

/-- The value that a whole text holds. -/
def parse? (text : String) : Option Json :=
  let cs := text.toList
  match valueFrom (2 * cs.length + 2) cs with
  | some (value, rest) => if (skipSpace rest).isEmpty then some value else none
  | none => none

end Json
end Colloquy
