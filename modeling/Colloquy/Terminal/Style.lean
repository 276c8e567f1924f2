/-!
# Styled text

A style is a pair of control sequences around a text.  The style applied last is the
outermost one.
-/

namespace Colloquy
namespace Terminal

inductive Style where
  | red
  | green
  | yellow
  | blue
  | magenta
  | brightCyan
  | brightWhite
  | bold
  | dimmed
  | underline
deriving DecidableEq, Repr

namespace Style

/-- The code that begins the style. -/
def start : Style -> Nat
  | red => 31
  | green => 32
  | yellow => 33
  | blue => 34
  | magenta => 35
  | brightCyan => 96
  | brightWhite => 97
  | bold => 1
  | dimmed => 2
  | underline => 4

/-- The code that ends the style: a colour goes back to the default one, anything else
back to plain text. -/
def stop : Style -> Nat
  | bold => 0
  | dimmed => 0
  | underline => 0
  | _ => 39

def sequence (code : Nat) : String :=
  "\x1b[" ++ toString code ++ "m"

def apply (s : Style) (text : String) : String :=
  sequence s.start ++ text ++ sequence s.stop

end Style

/-- A text in the given styles, the first of them innermost; a plain terminal shows the
text alone. -/
def paint (colored : Bool) (styles : List Style) (text : String) : String :=
  if colored then styles.foldl (fun t s => s.apply t) text else text

/-- The text followed by blanks up to the given number of characters. -/
def padded (width : Nat) (text : String) : String :=
  text ++ String.ofList (List.replicate (width - text.length) ' ')

end Terminal
end Colloquy
