import Colloquy.Decimal
import Colloquy.Yaml.Node

/-!
# Values of YAML nodes

An unquoted scalar without a tag of its own is null, a boolean, a number or a
string, depending on its text.  A mapping may not hold a key twice, and an integer
must fit in 64 bits.
-/

namespace Colloquy
namespace Yaml

inductive Value where
  | null
  | bool (value : Bool)
  | int (value : Int)
  | float (value : Float)
  | string (text : String)
  | sequence (items : List Value)
  | mapping (entries : List (Value × Value))
  | tagged (tag : String) (value : Value)

namespace Value

/-- Two floating-point keys are the same if they are equal or neither is a number. -/
def sameFloat (a b : Float) : Bool :=
  a == b || (a.isNaN && b.isNaN)

mutual

/-- Equality of values; the order of the entries of a mapping does not count. -/
def same : Value -> Value -> Bool
  | null, null => true
  | bool a, bool b => a == b
  | int a, int b => a == b
  | float a, float b => sameFloat a b
  | string a, string b => a == b
  | sequence a, sequence b => sameItems a b
  | mapping a, mapping b => a.length == b.length && eachIn a b
  | tagged s a, tagged t b => s == t && same a b
  | _, _ => false

def sameItems : List Value -> List Value -> Bool
  | [], [] => true
  | a :: as, b :: bs => same a b && sameItems as bs
  | _, _ => false

/-- Each entry of the first list is one of the second. -/
def eachIn : List (Value × Value) -> List (Value × Value) -> Bool
  | [], _ => true
  | (k, v) :: rest, bs => (bs.any fun e => same k e.1 && same v e.2) && eachIn rest bs

end

/-- The value without the tags around it. -/
def untagged : Value -> Value
  | tagged _ v => untagged v
  | v => v

def string? (v : Value) : Option String :=
  match v.untagged with
  | string s => some s
  | _ => none

def mapping? (v : Value) : Option (List (Value × Value)) :=
  match v.untagged with
  | mapping entries => some entries
  | _ => none

/-!
# Text of unquoted scalars
-/

def isNullWord (s : String) : Bool :=
  s == "null" || s == "Null" || s == "NULL" || s == "~"

def boolWord? (s : String) : Option Bool :=
  if s == "true" || s == "True" || s == "TRUE" then some true
  else if s == "false" || s == "False" || s == "FALSE" then some false
  else none

/-- A zero with more digits behind it, which is no number. -/
def isPaddedZero (cs : List Char) : Bool :=
  let digits := match cs with
    | '-' :: rest => rest
    | '+' :: rest => rest
    | _ => cs
  match digits with
  | '0' :: more => !more.isEmpty && more.all Char.isDigit
  | _ => false

/-- A number in the given base, without a sign. -/
def digits? (base : Nat) (cs : List Char) : Option Nat :=
  if cs.isEmpty then none
  else
    cs.foldl (fun n? c => do
      let n <- n?
      let d <- Text.hexValue? c
      if d < base then some (base * n + d) else none) (some 0)

/-- The digits of an integer, in the base that its first characters name. -/
def magnitude? : List Char -> Option Nat
  | '0' :: 'x' :: rest => digits? 16 rest
  | '0' :: 'o' :: rest => digits? 8 rest
  | '0' :: 'b' :: rest => digits? 2 rest
  | cs => if isPaddedZero cs then none else digits? 10 cs

/-- An integer that fits in 128 bits. -/
def integer? (cs : List Char) : Option Int :=
  match cs with
  | '-' :: rest =>
      (magnitude? rest).bind fun n => if n <= Nat.pow 2 127 then some (-(n : Int)) else none
  | '+' :: rest =>
      (magnitude? rest).bind fun n => if n < Nat.pow 2 128 then some (n : Int) else none
  | _ => (magnitude? cs).bind fun n => if n < Nat.pow 2 128 then some (n : Int) else none

def isInfinityWord (s : String) : Bool :=
  s == ".inf" || s == ".Inf" || s == ".INF"

def float? (cs : List Char) : Option Float :=
  let word := String.ofList cs
  let unsigned := match cs with
    | '+' :: rest => rest
    | _ => cs
  if isInfinityWord (String.ofList unsigned) then some (1.0 / 0.0)
  else if word == "-.inf" || word == "-.Inf" || word == "-.INF" then some (-1.0 / 0.0)
  else if word == ".nan" || word == ".NaN" || word == ".NAN" then some (0.0 / 0.0)
  else
    let (negative, digits) := match cs with
      | '-' :: rest => (true, rest)
      | _ => (false, unsigned)
    match Decimal.ofChars? digits with
    | none => none
    | some d =>
        let x := d.toFloat
        if x.isFinite then some (if negative then -x else x) else none

/-- The number fits in 64 bits, with or without a sign. -/
def fitsWord (i : Int) : Bool :=
  -Int.pow 2 63 <= i && i < Int.pow 2 64

/-- The value of an unquoted scalar. -/
def ofPlain (text : String) : Except Error Value :=
  let cs := text.toList
  if text.isEmpty || isNullWord text then .ok null
  else
    match boolWord? text with
    | some b => .ok (bool b)
    | none =>
        match integer? cs with
        | some i => if fitsWord i then .ok (int i) else .error .integerTooLarge
        | none =>
            if isPaddedZero cs then .ok (string text)
            else
              match float? cs with
              | some x => .ok (float x)
              | none => .ok (string text)

/-- A tag that is not one of the standard ones names the value that follows. -/
def ownTag? : Option String -> Option String
  | none => none
  | some tag =>
      match tag.toList with
      | '!' :: name => some (String.ofList name)
      | _ => none

/-- The value of a scalar whose tag, if any, is a standard one. -/
def ofScalar (tag : Option String) (plain : Bool) (text : String) : Except Error Value :=
  match tag with
  | none => if plain then ofPlain text else .ok (string text)
  | some "tag:yaml.org,2002:bool" =>
      match boolWord? text with
      | some b => .ok (bool b)
      | none => .error .wrongKind
  | some "tag:yaml.org,2002:int" =>
      match integer? text.toList with
      | some i => if fitsWord i then .ok (int i) else .error .integerTooLarge
      | none => .error .wrongKind
  | some "tag:yaml.org,2002:float" =>
      match float? text.toList with
      | some x => .ok (float x)
      | none => .error .wrongKind
  | some "tag:yaml.org,2002:null" => if isNullWord text then .ok null else .error .wrongKind
  | some _ => .ok (string text)

def withTag (tag : Option String) (v : Value) : Except Error Value :=
  match ownTag? tag with
  | none => .ok v
  | some name => if name.isEmpty then .error .badTag else .ok (tagged name v)

mutual

def ofNode : Node -> Except Error Value
  | .scalar tag plain text => do
      let v <- ofScalar (if (ownTag? tag).isSome then none else tag) plain text
      withTag tag v
  | .sequence tag items => do
      let vs <- ofNodes items
      withTag tag (sequence vs)
  | .mapping tag entries => do
      let es <- ofEntries [] entries
      withTag tag (mapping es)

def ofNodes : List Node -> Except Error (List Value)
  | [] => .ok []
  | n :: rest => do
      let v <- ofNode n
      let vs <- ofNodes rest
      return v :: vs

/-- The entries of a mapping whose earlier keys are `seen`. -/
def ofEntries (seen : List Value) : List (Node × Node) -> Except Error (List (Value × Value))
  | [] => .ok []
  | (k, n) :: rest => do
      let key <- ofNode k
      if seen.any (same key) then
        throw .duplicateKey
      let v <- ofNode n
      let es <- ofEntries (key :: seen) rest
      return (key, v) :: es

end

end Value
end Yaml
end Colloquy
