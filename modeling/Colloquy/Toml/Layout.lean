import Colloquy.Toml.Value

/-!
# How a table is put together

A table may be named by a header, implied by the header of a table inside it, or made by
a dotted key.  A header names a table once, though it may name one that was only implied;
a dotted key adds only to tables that dotted keys made; and a value is complete as
written.
-/

namespace Colloquy
namespace Toml

/-- What made a table. -/
inductive Origin where
  | header
  | implied
  | dotted
deriving DecidableEq, Repr

/-- What a name stands for while its document is read. -/
inductive Entry where
  | value (value : Value)
  | table (origin : Origin) (fields : List (String × Entry))
  /-- An array of tables named by headers, the latest first. -/
  | tables (items : List (List (String × Entry)))

/-- A table that is not complete yet. -/
abbrev Layout := List (String × Entry)

namespace Layout

/-- Puts `f e?` in the place of the entry `e?` of a name. -/
def alter (name : String) (f : Option Entry -> Option Entry) : Layout -> Option Layout
  | [] => (f none).map fun e => [(name, e)]
  | (n, e) :: rest =>
      if n == name then (f (some e)).map fun e => (n, e) :: rest
      else (alter name f rest).map ((n, e) :: ·)

/-- Changes the table that a path leads to; of an array of tables that is the latest. -/
def within (dotted : Bool) : List String -> (Origin -> Layout -> Option Layout) ->
    Origin -> Layout -> Option Layout
  | [], change, origin, fields => change origin fields
  | name :: path, change, _, fields =>
      fields.alter name fun
        | none =>
            let origin : Origin := if dotted then .dotted else .implied
            (within dotted path change origin []).map (.table origin)
        | some (.table origin inner) =>
            if dotted && origin == .header then none
            else (within dotted path change origin inner).map (.table origin)
        | some (.tables (latest :: earlier)) =>
            (within dotted path change .header latest).map fun latest =>
              .tables (latest :: earlier)
        | some _ => none

/-- Gives a value to a name, which has none yet. -/
def insert (name : String) (v : Value) (fields : Layout) : Option Layout :=
  fields.alter name fun
    | none => some (.value v)
    | some _ => none

/-- Gives a value to a key whose names before the last are `path`. -/
def assign (path : List String) (name : String) (v : Value) (origin : Origin)
    (fields : Layout) : Option Layout :=
  let dotted := !path.isEmpty
  within dotted path (fun origin fields =>
    if (origin == .dotted) == dotted then fields.insert name v else none) origin fields

/-- A header names a table. -/
def openTable (path : List String) (name : String) (root : Layout) : Option Layout :=
  within false path (fun _ fields => fields.alter name fun
    | none => some (.table .header [])
    | some (.table .implied inner) => some (.table .header inner)
    | some _ => none) .header root

/-- A header opens the next table of an array. -/
def openItem (path : List String) (name : String) (root : Layout) : Option Layout :=
  within false path (fun _ fields => fields.alter name fun
    | none => some (.tables [[]])
    | some (.tables items) => some (.tables ([] :: items))
    | some _ => none) .header root

mutual

def entryValue : Entry -> Value
  | .value v => v
  | .table _ fields => .table (complete fields)
  | .tables items => .array (completeItems items [])

/-- The table as it stands. -/
def complete : Layout -> Table
  | [] => []
  | (name, e) :: rest => (name, entryValue e) :: complete rest

/-- The tables of an array, first the earliest. -/
def completeItems : List (List (String × Entry)) -> List Value -> List Value
  | [], later => later
  | latest :: earlier, later => completeItems earlier (.table (complete latest) :: later)

end

end Layout
end Toml
end Colloquy
