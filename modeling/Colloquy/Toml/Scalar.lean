import Colloquy.Text.Hex
import Colloquy.Toml.Value

/-!
# Scalars of TOML

Strings are basic, with escapes, or literal, and either kind may span lines between
threefold quotation marks.  Every other scalar is a run of letters, digits and a few
marks whose form tells what it is.
-/

namespace Colloquy
namespace Toml

abbrev Reader (α : Type) := List Char -> Option (α × List Char)

/-- The characters that may stand in a comment or in a string on one line. -/
def isText (c : Char) : Bool :=
  c == '\t' || (0x20 <= c.toNat && c.toNat != 0x7F)

def isBlank (c : Char) : Bool :=
  c == ' ' || c == '\t'

def skipBlanks (cs : List Char) : List Char :=
  cs.dropWhile isBlank

/-!
# Strings
-/

/-- The character of an escape, with the text behind the escape. -/
def escape? : Reader Char
  | [] => none
  | c :: rest =>
      match c with
      | 'b' => some ('\x08', rest)
      | 't' => some ('\t', rest)
      | 'n' => some ('\n', rest)
      | 'f' => some ('\x0c', rest)
      | 'r' => some ('\r', rest)
      | 'e' => some ('\x1b', rest)
      | '"' => some ('"', rest)
      | '\\' => some ('\\', rest)
      | 'x' => byNumber 2 rest
      | 'u' => byNumber 4 rest
      | 'U' => byNumber 8 rest
      | _ => none
where
  byNumber (length : Nat) (cs : List Char) : Option (Char × List Char) :=
    let digits := cs.take length
    if digits.length < length then none
    else
      match Text.hexNumber? digits with
      | none => none
      | some n => if n.isValidChar then some (Char.ofNat n, cs.drop length) else none

/-- The rest of a basic string, added to `read` in reverse. -/
def basicFrom : Nat -> List Char -> Reader String
  | 0, _, _ => none
  | _ + 1, _, [] => none
  | _ + 1, read, '"' :: rest => some (String.ofList read.reverse, rest)
  | steps + 1, read, '\\' :: rest =>
      match escape? rest with
      | some (c, rest) => basicFrom steps (c :: read) rest
      | none => none
  | steps + 1, read, c :: rest =>
      if isText c then basicFrom steps (c :: read) rest else none

/-- The rest of a literal string. -/
def literal? (cs : List Char) : Option (String × List Char) :=
  let body := cs.takeWhile (· != '\'')
  match cs.dropWhile (· != '\'') with
  | [] => none
  | _ :: rest => if body.all isText then some (String.ofList body, rest) else none

/-- The text behind a backslash that ends its line: blanks and line ends go with it. -/
def continued? (cs : List Char) : Option (List Char) :=
  match skipBlanks cs with
  | '\n' :: rest => some (dropSpace rest)
  | '\r' :: '\n' :: rest => some (dropSpace rest)
  | _ => none
where
  dropSpace : List Char -> List Char
    | [] => []
    | '\r' :: '\n' :: rest => dropSpace rest
    | c :: rest => if isBlank c || c == '\n' then dropSpace rest else c :: rest

/-- The rest of a string over several lines.  Up to two quotation marks stand for
themselves, also directly before the three that close the string. -/
def linesFrom (mark : Char) (escapes : Bool) : Nat -> List Char -> Reader String
  | 0, _, _ => none
  | steps + 1, read, cs =>
      match cs with
      | [] => none
      | c :: rest =>
          if c == mark then
            let marks := (cs.takeWhile (· == mark)).length
            let after := cs.dropWhile (· == mark)
            if marks < 3 then linesFrom mark escapes steps (List.replicate marks mark ++ read) after
            else if marks <= 5 then
              some (String.ofList (List.replicate (marks - 3) mark ++ read).reverse, after)
            else none
          else if escapes && c == '\\' then
            match continued? rest with
            | some rest => linesFrom mark escapes steps read rest
            | none =>
                match escape? rest with
                | some (c, rest) => linesFrom mark escapes steps (c :: read) rest
                | none => none
          else if c == '\n' || isText c then linesFrom mark escapes steps (c :: read) rest
          else
            match c, rest with
            | '\r', '\n' :: rest => linesFrom mark escapes steps ('\n' :: '\r' :: read) rest
            | _, _ => none

/-- The text behind a line end right after the opening marks. -/
def dropFirstBreak : List Char -> List Char
  | '\n' :: rest => rest
  | '\r' :: '\n' :: rest => rest
  | cs => cs

/-- A string of any kind. -/
def string? : Reader String
  | '"' :: '"' :: '"' :: rest => linesFrom '"' true (rest.length + 1) [] (dropFirstBreak rest)
  | '"' :: rest => basicFrom (rest.length + 1) [] rest
  | '\'' :: '\'' :: '\'' :: rest =>
      linesFrom '\'' false (rest.length + 1) [] (dropFirstBreak rest)
  | '\'' :: rest => literal? rest
  | _ => none

/-!
# Numbers
-/

/-- The digits of a number in which an underscore may stand between two digits. -/
def ungroup? (isDigit : Char -> Bool) : List Char -> Option (List Char)
  | [] => none
  | [c] => if isDigit c then some [c] else none
  | c :: '_' :: rest => if isDigit c then (ungroup? isDigit rest).map (c :: ·) else none
  | c :: d :: rest =>
      if isDigit c then (ungroup? isDigit (d :: rest)).map (c :: ·) else none

def valueIn (base : Nat) (digits : List Char) : Nat :=
  digits.foldl (fun n c => base * n + (Text.hexValue? c).getD 0) 0

/-- Decimal digits without a zero in front. -/
def whole? (cs : List Char) : Option (List Char) :=
  (ungroup? Char.isDigit cs).filter fun digits => digits.length == 1 || digits.head? != some '0'

/-- A number below zero, and the text behind the sign. -/
def unsigned : List Char -> Bool × List Char
  | '-' :: rest => (true, rest)
  | '+' :: rest => (false, rest)
  | cs => (false, cs)

def integer? (cs : List Char) : Option Int :=
  match cs with
  | '0' :: 'x' :: digits => inBase 16 (fun c => (Text.hexValue? c).isSome) digits
  | '0' :: 'o' :: digits => inBase 8 (fun c => '0' <= c && c <= '7') digits
  | '0' :: 'b' :: digits => inBase 2 (fun c => c == '0' || c == '1') digits
  | _ =>
      let (negative, digits) := unsigned cs
      (whole? digits).map fun digits =>
        let n : Int := valueIn 10 digits
        if negative then -n else n
where
  inBase (base : Nat) (isDigit : Char -> Bool) (digits : List Char) : Option Int :=
    (ungroup? isDigit digits).map fun digits => (valueIn base digits : Int)

/-- The value `digits * 10 ^ exponent` is nearer to infinity than to any double. -/
def overflows (digits : Nat) (exponent : Int) : Bool :=
  let places := (Nat.toDigits 10 digits).length
  if digits == 0 || (places : Int) + exponent < 300 then false
  else if 400 < (places : Int) + exponent then true
  else if exponent < 0 then (Nat.pow 2 1024 - Nat.pow 2 970) * Nat.pow 10 exponent.natAbs <= digits
  else Nat.pow 2 1024 - Nat.pow 2 970 <= digits * Nat.pow 10 exponent.natAbs

def isGroupChar (c : Char) : Bool :=
  c.isDigit || c == '_'

/-- The fraction behind a point, if there is a point. -/
def fraction? (cs : List Char) : Option (Option (List Char) × List Char) :=
  match cs with
  | '.' :: rest =>
      (ungroup? Char.isDigit (rest.takeWhile isGroupChar)).map fun digits =>
        (some digits, rest.dropWhile isGroupChar)
  | _ => some (none, cs)

/-- The exponent that ends a number, if there is one. -/
def exponent? : List Char -> Option (Option Int)
  | [] => some none
  | c :: rest =>
      if c == 'e' || c == 'E' then
        let (negative, digits) := unsigned rest
        (ungroup? Char.isDigit digits).map fun digits =>
          let n : Int := valueIn 10 digits
          some (if negative then -n else n)
      else none

/-- The text is a number with a fraction or an exponent that has a finite value, or it
names an infinity or no number at all. -/
def isFloat (cs : List Char) : Bool :=
  let body := (unsigned cs).2
  if body == ['i', 'n', 'f'] || body == ['n', 'a', 'n'] then true
  else
    let read := do
      let whole <- whole? (body.takeWhile isGroupChar)
      let (fraction, rest) <- fraction? (body.dropWhile isGroupChar)
      let exponent <- exponent? rest
      some (whole, fraction, exponent)
    match read with
    | some (_, none, none) => false
    | some (whole, fraction, exponent) =>
        let fraction := fraction.getD []
        !overflows (valueIn 10 (whole ++ fraction)) (exponent.getD 0 - fraction.length)
    | none => false

/-!
# Dates and times
-/

/-- A number of exactly `length` digits that is at most `most`. -/
def field? (length most : Nat) (cs : List Char) : Option (Nat × List Char) :=
  let digits := cs.take length
  if digits.length == length && digits.all Char.isDigit && valueIn 10 digits <= most then
    some (valueIn 10 digits, cs.drop length)
  else none

def after? (c : Char) : List Char -> Option (List Char)
  | [] => none
  | d :: rest => if c == d then some rest else none

def isLeapYear (year : Nat) : Bool :=
  year % 4 == 0 && (year % 100 != 0 || year % 400 == 0)

def daysOf (year month : Nat) : Nat :=
  if month == 2 then if isLeapYear year then 29 else 28
  else if month == 4 || month == 6 || month == 9 || month == 11 then 30
  else 31

/-- The text behind a date. -/
def date? (cs : List Char) : Option (List Char) := do
  let (year, cs) <- field? 4 9999 cs
  let cs <- after? '-' cs
  let (month, cs) <- field? 2 12 cs
  let cs <- after? '-' cs
  let (day, cs) <- field? 2 (daysOf year month) cs
  if month == 0 || day == 0 then none else some cs

/-- The text behind the seconds of a time and their fraction, which may be missing. -/
def seconds? (cs : List Char) : Option (List Char) :=
  match cs with
  | ':' :: rest => do
      let (_, rest) <- field? 2 60 rest
      match rest with
      | '.' :: rest =>
          if (rest.takeWhile Char.isDigit).isEmpty then none
          else some (rest.dropWhile Char.isDigit)
      | rest => some rest
  | _ => some cs

/-- The text behind hours and minutes. -/
def minutes? (cs : List Char) : Option (List Char) := do
  let (_, cs) <- field? 2 23 cs
  let cs <- after? ':' cs
  let (_, cs) <- field? 2 59 cs
  some cs

def time? (cs : List Char) : Option (List Char) :=
  (minutes? cs).bind seconds?

/-- The text is the distance of a time from the prime meridian, or nothing. -/
def isOffset (cs : List Char) : Bool :=
  match cs with
  | [] => true
  | ['Z'] => true
  | ['z'] => true
  | '+' :: rest => minutes? rest == some []
  | '-' :: rest => minutes? rest == some []
  | _ => false

def isTimeMark (c : Char) : Bool :=
  c == 'T' || c == 't' || c == ' '

/-- The text is a date, a time or both. -/
def isDatetime (cs : List Char) : Bool :=
  match date? cs with
  | some [] => true
  | some (c :: rest) =>
      isTimeMark c && match time? rest with
        | some rest => isOffset rest
        | none => false
  | none => time? cs == some []

/-!
# Scalars without quotation marks
-/

def isBareChar (c : Char) : Bool :=
  c.isAlphanum || c == '_' || c == '-'

def isScalarChar (c : Char) : Bool :=
  isBareChar c || c == '+' || c == '.' || c == ':'

/-- What a run of characters means. -/
def scalar? (cs : List Char) : Option Value :=
  if cs == "true".toList then some (.boolean true)
  else if cs == "false".toList then some (.boolean false)
  else
    match integer? cs with
    | some n => some (.integer n)
    | none =>
        if isFloat cs then some (.float (String.ofList cs))
        else if isDatetime cs then some (.datetime (String.ofList cs))
        else none

/-- A run of characters; behind a date one blank may stand before the time. -/
def bare? (cs : List Char) : Option (Value × List Char) :=
  let run := cs.takeWhile isScalarChar
  let rest := cs.dropWhile isScalarChar
  let joined := match rest with
    | ' ' :: d :: more =>
        if date? run == some [] && d.isDigit then
          some (run ++ ' ' :: (d :: more).takeWhile isScalarChar,
            (d :: more).dropWhile isScalarChar)
        else none
    | _ => none
  let (run, rest) := joined.getD (run, rest)
  (scalar? run).map fun v => (v, rest)

end Toml
end Colloquy
