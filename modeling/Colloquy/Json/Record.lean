import Colloquy.Json.Parse
import Colloquy.Text.Bytes

/-!
# Records in JSON

A record is an object some of whose fields are known.  A known field may not be given
twice; other fields do not count.
-/

namespace Colloquy
namespace Json

/-- The value of a known field, if it is given at most once. -/
def once? (j : Json) (name : String) : Option (Option Json) :=
  match j with
  | object fields =>
      match fields.filter fun f => f.1 == name with
      | [] => some none
      | [f] => some (some f.2)
      | _ => none
  | _ => none

/-- The value of a field that must be given. -/
def required? (j : Json) (name : String) : Option Json :=
  (j.once? name).bind id

/-- The value of a field that may be missing or null. -/
def optional? (j : Json) (name : String) : Option (Option Json) :=
  (j.once? name).map fun v => v.filter (!·.isNull)

/-- The vector that an array of numbers holds; each number must be finite before it is
rounded. -/
def vector? (j : Json) : Option (List Float32) := do
  let items <- j.array?
  items.mapM fun
    | number n =>
        let x := n.toFloat
        if x.isFinite then some x.toFloat32 else none
    | _ => none

/-- The value that bytes hold. -/
def ofBytes? (bytes : List UInt8) : Option Json :=
  (Text.decode? bytes).bind fun cs => parse? (String.ofList cs)

end Json
end Colloquy
