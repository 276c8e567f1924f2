import Colloquy.Text.Hex

/-!
# Identifiers of runs

A run has a number of 128 bits.  It is written as 32 hexadecimal digits in five
groups.
-/

namespace Colloquy
namespace Identifier

/-- The last `count` hexadecimal digits of a number. -/
def hexDigits (n : Nat) : (count : Nat) -> List Char
  | 0 => []
  | count + 1 => Text.hexDigit (n / Nat.pow 16 count % 16) :: hexDigits n count

def groups : List Nat := [8, 4, 4, 4, 12]

def split (digits : List Char) : List Nat -> List (List Char)
  | [] => []
  | size :: rest => digits.take size :: split (digits.drop size) rest

def text (n : Nat) : String :=
  String.intercalate "-" ((split (hexDigits n 32) groups).map String.ofList)

/-- The identifier that the last 122 bits of a random number make; the other bits tell
that it is random. -/
def ofRandom (n : Nat) : Nat :=
  (n / Nat.pow 2 74 % Nat.pow 2 48) * Nat.pow 2 80 + 4 * Nat.pow 2 76 +
    (n / Nat.pow 2 62 % Nat.pow 2 12) * Nat.pow 2 64 + 2 * Nat.pow 2 62 + n % Nat.pow 2 62

end Identifier
end Colloquy
