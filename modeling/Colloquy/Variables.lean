/-!
# Variables

The variables of the surroundings, by name.
-/

namespace Colloquy

/-- The values of the variables that are set. -/
abbrev Variables := String -> Option String

namespace Variables

/-- Sets a variable that is not set yet. -/
def setNew (v : Variables) (name value : String) : Variables :=
  fun n =>
    match v n with
    | some old => some old
    | none => if n == name then some value else none

end Variables
end Colloquy
