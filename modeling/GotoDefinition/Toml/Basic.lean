/-!
# GotoDefinition.Toml.Basic

TOML tables and the rules by which keys and headers build them up.

Where a table comes from decides what may still be added to it: one made by a header is finished
with the next header, one that a longer header passes through may get a header of its own, one made
by dotted keys may get more dotted keys, and an inline table is closed.
-/

namespace GotoDefinition

namespace Toml

inductive Origin where
  | header
  /-- Passed through by the header of another table. -/
  | implied
  | dotted
  | inline
  deriving DecidableEq

end Toml

inductive Toml where
  | string (s : String)
  | bool (b : Bool)
  /-- A number, a date or a time. -/
  | scalar
  | array (items : List Toml)
  | table (origin : Toml.Origin) (fields : List (String × Toml))
  /-- Tables that are headed one by one. -/
  | tables (items : List (List (String × Toml)))

namespace Toml

abbrev TableFields :=
  List (String × Toml)

def find? (key : String) (fields : TableFields) : Option Toml :=
  (fields.find? (·.1 == key)).map (·.2)

/-- Puts a value in the place of the one with the key, or at the end. -/
def put (key : String) (v : Toml) : TableFields → TableFields
  | [] => [(key, v)]
  | (k, w) :: rest => if k == key then (k, v) :: rest else (k, w) :: put key v rest

/-! ## Keys with values -/

/-- Adds a value under a dotted key. The tables on the way have to be made by dotted keys too, and
the last key has to be new. -/
def assign : List String → Toml → TableFields → Option TableFields
  | [], _, _ => none
  | [key], v, fields =>
    match find? key fields with
    | none => some (fields ++ [(key, v)])
    | some _ => none
  | key :: path, v, fields =>
    match find? key fields with
    | none => (assign path v []).map fun inner => fields ++ [(key, .table .dotted inner)]
    | some (.table .dotted inner) =>
      (assign path v inner).map fun inner => put key (.table .dotted inner) fields
    | some (.table .implied inner) =>
      match path with
      | [_] => none
      | _ => (assign path v inner).map fun inner => put key (.table .implied inner) fields
    | some _ => none

/-! ## Headers -/

/-- Changes the table of a header. The tables on the way are made where they are missing. -/
def within (change : Option Toml → Option Toml) : List String → TableFields → Option TableFields
  | [], _ => none
  | [key], fields => (change (find? key fields)).map fun v => put key v fields
  | key :: path, fields =>
    match find? key fields with
    | none => (within change path []).map fun inner => fields ++ [(key, .table .implied inner)]
    | some (.table .inline _) => none
    | some (.table origin inner) =>
      (within change path inner).map fun inner => put key (.table origin inner) fields
    | some (.tables items) =>
      match items.reverse with
      | last :: earlier =>
        (within change path last).map fun last =>
          put key (.tables (last :: earlier).reverse) fields
      | [] => none
    | some _ => none

/-- `[path]` makes a table, once. -/
def openTable : Option Toml → Option Toml
  | none => some (.table .header [])
  | some (.table .implied fields) => some (.table .header fields)
  | some _ => none

/-- `[[path]]` adds a table to an array of tables. -/
def openElement : Option Toml → Option Toml
  | none => some (.tables [[]])
  | some (.tables items) => some (.tables (items ++ [[]]))
  | some _ => none

/-- Adds a value to the table or array of tables that has been headed last. -/
def assignUnder (path : List String) (v : Toml) : Option Toml → Option Toml
  | some (.table origin fields) => (assign path v fields).map (.table origin)
  | some (.tables items) =>
    match items.reverse with
    | last :: earlier => (assign path v last).map fun last => .tables (last :: earlier).reverse
    | [] => none
  | _ => none

end Toml

end GotoDefinition
