import Colloquy.Json
import Colloquy.Text.Hex

/-!
# Writing JSON

Strings escape quotation marks, backslashes and control characters and nothing
else.  The compact form has no blanks; the indented form puts each item on a line
of its own, two blanks deeper than its container.
-/

namespace Colloquy
namespace Json

def escapeChar (c : Char) : List Char :=
  match c with
  | '"' => ['\\', '"']
  | '\\' => ['\\', '\\']
  | '\n' => ['\\', 'n']
  | '\r' => ['\\', 'r']
  | '\t' => ['\\', 't']
  | '\x08' => ['\\', 'b']
  | '\x0c' => ['\\', 'f']
  | c =>
      if c.toNat < 0x20 then
        ['\\', 'u', '0', '0', Text.hexDigit (c.toNat / 16), Text.hexDigit (c.toNat % 16)]
      else [c]

def quote (s : String) : String :=
  "\"" ++ String.ofList (s.toList.flatMap escapeChar) ++ "\""

def numeralText (n : Numeral) : String :=
  (if n.negative then "-" else "") ++ toString n.digits ++
    (if n.whole then "" else "e" ++ toString n.exponent)

mutual

def compact : Json -> String
  | null => "null"
  | bool true => "true"
  | bool false => "false"
  | number n => numeralText n
  | string s => quote s
  | array items => "[" ++ compactItems items ++ "]"
  | object fields => "\x7b" ++ compactFields fields ++ "\x7d"

def compactItems : List Json -> String
  | [] => ""
  | [item] => compact item
  | item :: next :: rest => compact item ++ "," ++ compactItems (next :: rest)

def compactFields : List (String × Json) -> String
  | [] => ""
  | [(name, value)] => quote name ++ ":" ++ compact value
  | (name, value) :: next :: rest =>
      quote name ++ ":" ++ compact value ++ "," ++ compactFields (next :: rest)

end

def indentation (depth : Nat) : String :=
  String.ofList (List.replicate (2 * depth) ' ')

mutual

def indented (depth : Nat) : Json -> String
  | null => "null"
  | bool true => "true"
  | bool false => "false"
  | number n => numeralText n
  | string s => quote s
  | array [] => "[]"
  | array (item :: rest) =>
      "[\n" ++ indentedItems (depth + 1) (item :: rest) ++ indentation depth ++ "]"
  | object [] => "\x7b\x7d"
  | object (field :: rest) =>
      "\x7b\n" ++ indentedFields (depth + 1) (field :: rest) ++ indentation depth ++ "\x7d"

def indentedItems (depth : Nat) : List Json -> String
  | [] => ""
  | [item] => indentation depth ++ indented depth item ++ "\n"
  | item :: next :: rest =>
      indentation depth ++ indented depth item ++ ",\n" ++ indentedItems depth (next :: rest)

def indentedFields (depth : Nat) : List (String × Json) -> String
  | [] => ""
  | [(name, value)] =>
      indentation depth ++ quote name ++ ": " ++ indented depth value ++ "\n"
  | (name, value) :: next :: rest =>
      indentation depth ++ quote name ++ ": " ++ indented depth value ++ ",\n" ++
        indentedFields depth (next :: rest)

end

/-- The indented form, as it stands on its own. -/
def pretty (j : Json) : String :=
  indented 0 j

end Json
end Colloquy
