/-!
# Decimal numbers

A decimal number is `digits * 10 ^ exponent`.  Reading takes what is written with
digits, at most one point and an exponent; the nearest double-precision number is found
from it, and the shortest decimal that reads back as a given floating-point number.
-/

namespace Colloquy

structure Decimal where
  digits : Nat
  exponent : Int
deriving DecidableEq, Repr

namespace Decimal

def digitsValue (cs : List Char) : Nat :=
  cs.foldl (fun n c => 10 * n + (c.toNat - 0x30)) 0

/-- An exponent behind its letter: a sign if any, and digits to the end. -/
def exponent? (cs : List Char) : Option Int :=
  let (negative, digits) := match cs with
    | '-' :: rest => (true, rest)
    | '+' :: rest => (false, rest)
    | _ => (false, cs)
  if digits.isEmpty || !digits.all Char.isDigit then none
  else some (if negative then -(digitsValue digits : Int) else digitsValue digits)

/-- A whole text as a decimal number without a sign.  There is a digit before or
after the point. -/
def ofChars? (cs : List Char) : Option Decimal :=
  let whole := cs.takeWhile Char.isDigit
  let rest := cs.drop whole.length
  let (fraction, rest) := match rest with
    | '.' :: more => (more.takeWhile Char.isDigit, more.dropWhile Char.isDigit)
    | _ => ([], rest)
  if whole.isEmpty && fraction.isEmpty then none
  else
    let digits := digitsValue (whole ++ fraction)
    let scale : Int := -fraction.length
    match rest with
    | [] => some ⟨digits, scale⟩
    | c :: more =>
        if c == 'e' || c == 'E' then (exponent? more).map fun e => ⟨digits, scale + e⟩
        else none

/-- The number of digits of a positive number. -/
def width (n : Nat) : Nat :=
  if n == 0 then 0 else (Nat.toDigits 10 n).length

/-- The nearest double-precision number.  Numbers far outside its range are not
computed. -/
def toFloat (d : Decimal) : Float :=
  let top : Int := d.exponent + width d.digits
  if d.digits == 0 || top < -400 then 0.0
  else if top > 400 then 1.0 / 0.0
  else if d.exponent < 0 then Float.ofScientific d.digits true d.exponent.natAbs
  else Float.ofScientific d.digits false d.exponent.natAbs

/-!
# The shortest decimal
-/

/-- A finite floating-point number without its sign, as `mantissa * 2 ^ power`. -/
structure Binary where
  mantissa : Nat
  power : Int
  /-- The number below is half as far away as the number above. -/
  atBoundary : Bool

def Binary.ofFloat (x : Float) : Binary :=
  let bits : Nat := x.toBits.toNat
  let exponent : Nat := bits / Nat.pow 2 52 % Nat.pow 2 11
  let fraction : Nat := bits % Nat.pow 2 52
  if exponent == 0 then ⟨fraction, -1074, false⟩
  else ⟨fraction + Nat.pow 2 52, (exponent : Int) - 1075, fraction == 0 && exponent > 1⟩

/-- The numbers that read back as `b` lie between two bounds, here with the number
itself as fractions of one denominator. -/
structure Interval where
  low : Nat
  middle : Nat
  high : Nat
  denominator : Nat
  /-- The bounds themselves read back too. -/
  closed : Bool

def Binary.interval (b : Binary) : Interval :=
  let up := Nat.pow 2 b.power.toNat
  let down := Nat.pow 2 (-b.power).toNat
  { low := (4 * b.mantissa - (if b.atBoundary then 1 else 2)) * up
    middle := 4 * b.mantissa * up
    high := (4 * b.mantissa + 2) * up
    denominator := 4 * down
    closed := b.mantissa % 2 == 0 }

def Interval.contains (i : Interval) (numerator : Nat) : Bool :=
  if i.closed then i.low <= numerator && numerator <= i.high
  else i.low < numerator && numerator < i.high

/-- The nearer to the middle of the two neighbours on the grid of multiples of
`10 ^ power`, if one lies in the interval.  Of two that are equally near it is the one
above. -/
def Interval.onGrid? (i : Interval) (power : Int) : Option Nat :=
  let up := Nat.pow 10 power.toNat
  let down := Nat.pow 10 (-power).toNat
  let step := up * i.denominator
  let scaled : Interval :=
    ⟨i.low * down, i.middle * down, i.high * down, i.denominator * down, i.closed⟩
  let below := scaled.middle / step
  let above := below + 1
  let lowHit := scaled.contains (below * step) && below != 0
  let highHit := scaled.contains (above * step)
  if lowHit && highHit then
    some (if 2 * scaled.middle < (below + above) * step then below else above)
  else if lowHit then some below
  else if highHit then some above
  else none

/-- The first grid that has a hit, from coarse to fine. -/
def Interval.search (i : Interval) : Nat -> Int -> Decimal
  | 0, power => ⟨i.middle / i.denominator, power⟩
  | steps + 1, power =>
      match i.onGrid? power with
      | some n => ⟨n, power⟩
      | none => Interval.search i steps (power - 1)

/-- The shortest decimal that reads back as the given positive finite number. -/
def shortest (x : Float) : Decimal :=
  (Binary.ofFloat x).interval.search 700 310

/-- The digits of a decimal, with a point where they need one and no exponent. -/
def positional (d : Decimal) : String :=
  let digits := Nat.toDigits 10 d.digits
  if 0 <= d.exponent then
    String.ofList (digits ++ List.replicate d.exponent.toNat '0')
  else
    let places := d.exponent.natAbs
    let padded := List.replicate (places + 1 - digits.length) '0' ++ digits
    let cut := padded.length - places
    String.ofList (padded.take cut ++ '.' :: padded.drop cut)

end Decimal
end Colloquy
