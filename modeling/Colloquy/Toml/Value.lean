/-!
# TOML values

A TOML document is a table: each of its names has one value.  Numbers with a fraction,
dates and times are kept as they were written.
-/

namespace Colloquy
namespace Toml

inductive Value where
  | string (value : String)
  | integer (value : Int)
  | float (written : String)
  | boolean (value : Bool)
  | datetime (written : String)
  | array (items : List Value)
  | table (fields : List (String × Value))

abbrev Table := List (String × Value)

namespace Table

/-- The value of a name. -/
def find? (t : Table) (name : String) : Option Value :=
  (List.find? (fun f => f.1 == name) t).map Prod.snd

end Table

namespace Value

mutual

/-- Some integer in the value satisfies `p`. -/
def anyInteger (p : Int -> Bool) : Value -> Bool
  | integer n => p n
  | array items => anyIntegerItem p items
  | table fields => anyIntegerField p fields
  | _ => false

def anyIntegerItem (p : Int -> Bool) : List Value -> Bool
  | [] => false
  | v :: rest => v.anyInteger p || anyIntegerItem p rest

def anyIntegerField (p : Int -> Bool) : List (String × Value) -> Bool
  | [] => false
  | (_, v) :: rest => v.anyInteger p || anyIntegerField p rest

end

end Value
end Toml
end Colloquy
