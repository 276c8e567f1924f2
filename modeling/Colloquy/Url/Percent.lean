import Colloquy.Text.Bytes
import Colloquy.Text.Hex

/-!
# Percent encoding

A byte that may not stand in a part of an address as it is, is written as a percent sign
and two hexadecimal digits.  Each part has its own set of such bytes; bytes outside of
ASCII are encoded in every part.
-/

namespace Colloquy
namespace Url

/-- Whether a character is encoded. -/
abbrev EncodeSet := Char -> Bool

namespace EncodeSet

def controls : EncodeSet := fun c =>
  c.toNat < 0x20 || 0x7E < c.toNat

def fragment : EncodeSet := fun c =>
  controls c || c == ' ' || c == '"' || c == '<' || c == '>' || c == '\x60'

def query : EncodeSet := fun c =>
  controls c || c == ' ' || c == '"' || c == '#' || c == '<' || c == '>'

def specialQuery : EncodeSet := fun c =>
  query c || c == '\''

def path : EncodeSet := fun c =>
  fragment c || c == '#' || c == '?' || c == '^' || c == '\x7b' || c == '\x7d'

def userinfo : EncodeSet := fun c =>
  path c || c == '/' || c == ':' || c == ';' || c == '=' || c == '@' || c == '[' ||
    c == '\\' || c == ']' || c == '|'

end EncodeSet

def encodeByte (b : UInt8) : List Char :=
  ['%', Text.hexCapital (b.toNat / 16), Text.hexCapital (b.toNat % 16)]

def encodeChar (s : EncodeSet) (c : Char) : List Char :=
  if s c then (Text.encode [c]).flatMap encodeByte else [c]

def percentEncode (s : EncodeSet) (cs : List Char) : List Char :=
  cs.flatMap (encodeChar s)

/-- The bytes of a text in which percent signs with two digits stand for bytes. -/
def percentDecode : List Char -> List UInt8
  | [] => []
  | '%' :: a :: b :: rest =>
      match Text.hexValue? a, Text.hexValue? b with
      | some x, some y => UInt8.ofNat (16 * x + y) :: percentDecode rest
      | _, _ => Text.encode ['%'] ++ percentDecode (a :: b :: rest)
  | c :: rest => Text.encode [c] ++ percentDecode rest

end Url
end Colloquy
