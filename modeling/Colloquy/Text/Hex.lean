/-!
# Hexadecimal digits

Digits are read in either case and written in small or in capital letters.
-/

namespace Colloquy
namespace Text

def hexValue? (c : Char) : Option Nat :=
  if c.isDigit then some (c.toNat - 0x30)
  else if 'a' <= c && c <= 'f' then some (c.toNat - 0x61 + 10)
  else if 'A' <= c && c <= 'F' then some (c.toNat - 0x41 + 10)
  else none

/-- The number that hexadecimal digits write; no digits write zero. -/
def hexNumber? (cs : List Char) : Option Nat :=
  cs.foldl (fun n? c => do
    let n <- n?
    let d <- hexValue? c
    some (16 * n + d)) (some 0)

/-- The digit of a number below sixteen. -/
def hexDigit (n : Nat) : Char :=
  if n < 10 then Char.ofNat (0x30 + n) else Char.ofNat (0x61 + (n - 10))

/-- The digit of a number below sixteen, as a capital letter from ten on. -/
def hexCapital (n : Nat) : Char :=
  if n < 10 then Char.ofNat (0x30 + n) else Char.ofNat (0x41 + (n - 10))

end Text
end Colloquy
