/-!
# JSON values

A number keeps the digits it was written with, so that a whole number of any size
stays exact; the fields of an object keep their order and may repeat.
-/

namespace Colloquy

/-- A decimal number: `digits * 10 ^ exponent`, below zero if `negative`.  It is
whole when it was written with neither a point nor an exponent. -/
structure Numeral where
  negative : Bool := false
  digits : Nat
  exponent : Int := 0
  whole : Bool := true
deriving DecidableEq, Repr

namespace Numeral

def ofNat (n : Nat) : Numeral where
  digits := n

def ofInt (i : Int) : Numeral where
  negative := i < 0
  digits := i.natAbs

/-- The value of a number written as a whole number. -/
def toInt? (n : Numeral) : Option Int :=
  if n.whole then some (if n.negative then -(n.digits : Int) else n.digits) else none

/-- The value of a number written as a whole number without a sign. -/
def toNat? (n : Numeral) : Option Nat :=
  if n.whole && !n.negative then some n.digits else none

/-- The nearest double-precision number. -/
def toFloat (n : Numeral) : Float :=
  let size :=
    if n.exponent < 0 then Float.ofScientific n.digits true n.exponent.natAbs
    else Float.ofScientific n.digits false n.exponent.natAbs
  if n.negative then -size else size

end Numeral

inductive Json where
  | null
  | bool (value : Bool)
  | number (value : Numeral)
  | string (value : String)
  | array (items : List Json)
  | object (fields : List (String × Json))

namespace Json

def nat (n : Nat) : Json := number (.ofNat n)

def int (i : Int) : Json := number (.ofInt i)

/-- The last field with the given name. -/
def field? (j : Json) (name : String) : Option Json :=
  match j with
  | object fields => (fields.reverse.find? fun f => f.1 == name).map Prod.snd
  | _ => none

def string? : Json -> Option String
  | string s => some s
  | _ => none

def bool? : Json -> Option Bool
  | bool b => some b
  | _ => none

def nat? : Json -> Option Nat
  | number n => n.toNat?
  | _ => none

def int? : Json -> Option Int
  | number n => n.toInt?
  | _ => none

def array? : Json -> Option (List Json)
  | array items => some items
  | _ => none

def isNull : Json -> Bool
  | null => true
  | _ => false

end Json
end Colloquy
