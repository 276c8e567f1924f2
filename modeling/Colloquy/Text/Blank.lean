/-!
# Blank characters and trimming

A character is blank when it has the Unicode property White_Space.  Trimming
takes the blank characters off one end or off both ends of a text and leaves the
inside alone.
-/

namespace Colloquy
namespace Text

/-- The characters with the Unicode property White_Space. -/
def isBlank (c : Char) : Bool :=
  let n := c.toNat
  (9 <= n && n <= 13) || n == 0x20 || n == 0x85 || n == 0xA0 || n == 0x1680 ||
    (0x2000 <= n && n <= 0x200A) || n == 0x2028 || n == 0x2029 || n == 0x202F ||
    n == 0x205F || n == 0x3000

def dropBlanks (cs : List Char) : List Char :=
  cs.dropWhile isBlank

def dropBlanksEnd (cs : List Char) : List Char :=
  (dropBlanks cs.reverse).reverse

/-- The characters between the leading and the trailing blanks. -/
def strip (cs : List Char) : List Char :=
  dropBlanksEnd (dropBlanks cs)

def trim (s : String) : String :=
  String.ofList (strip s.toList)

def trimEnd (s : String) : String :=
  String.ofList (dropBlanksEnd s.toList)

end Text
end Colloquy
