import Colloquy.Terminal.Style

/-!
# Notices

The short texts a command prints about itself.  A plain terminal gets words and ASCII
signs where a coloured one gets symbols.
-/

namespace Colloquy
namespace Terminal

def version : String := "0.1.0"

def banner (colored : Bool) : String :=
  "\n   " ++ paint colored [.brightCyan, .bold] "statechat" ++ " " ++
    paint colored [.dimmed] ("v" ++ version) ++ "\n\n"

/-- How a kind of notice is marked and coloured. -/
structure Notice where
  symbol : String
  word : String
  symbolStyles : List Style
  textStyles : List Style

namespace Notice

def success : Notice := ⟨"✓", "[OK]", [.green, .bold], [.green]⟩
def info : Notice := ⟨"•", "[INFO]", [.blue], []⟩
def warning : Notice := ⟨"⚠", "[WARN]", [.yellow, .bold], [.yellow]⟩
def error : Notice := ⟨"✗", "[ERROR]", [.red, .bold], [.red]⟩

def render (n : Notice) (colored : Bool) (text : String) : String :=
  "  " ++ (if colored then paint true n.symbolStyles n.symbol else n.word) ++ " " ++
    paint colored n.textStyles text ++ "\n"

end Notice

/-- The title of a part of the output. -/
def header (colored : Bool) (title : String) : String :=
  "\n  " ++
    (if colored then paint true [.brightWhite, .bold, .underline] title
      else "=== " ++ title ++ " ===") ++ "\n"

/-- A name and what it stands for. -/
def pair (colored : Bool) (name value : String) : String :=
  "    " ++ paint colored [.dimmed] name ++ ": " ++ paint colored [.brightWhite] value ++ "\n"

def item (colored : Bool) (text : String) : String :=
  "    " ++ (if colored then paint true [.blue] "•" else "-") ++ " " ++ text ++ "\n"

/-!
# Tables
-/

def columnWidth : Nat := 15

/-- The columns of one line; a longer text takes the room it needs. -/
def columns (texts : List String) : String :=
  String.intercalate " " (texts.map (padded columnWidth))

def tableRow (texts : List String) : String :=
  "    " ++ columns texts ++ "\n"

def rule (colored : Bool) (count : Nat) : String :=
  String.ofList (List.replicate (count * (columnWidth + 1)) (if colored then '─' else '-'))

def tableHeader (colored : Bool) (texts : List String) : String :=
  "    " ++ paint colored [.brightWhite, .bold] (columns texts) ++ "\n    " ++
    paint colored [.dimmed] (rule colored texts.length) ++ "\n"

end Terminal
end Colloquy
