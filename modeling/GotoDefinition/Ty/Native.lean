import GotoDefinition.Text.Letters

/-!
# GotoDefinition.Ty.Native

The built-in types of PHP. None of them has a declaration to go to.
-/

namespace GotoDefinition

inductive NativeType where
  | int
  | float
  | string
  | bool
  | literalTrue
  | literalFalse
  | null
  | array
  | iterable
  | callable
  | object
  | mixed
  | void
  | never
  deriving DecidableEq, Repr

namespace NativeType

/-- The keyword that a type is written with. -/
def word : NativeType → String
  | int => "int"
  | float => "float"
  | string => "string"
  | bool => "bool"
  | literalTrue => "true"
  | literalFalse => "false"
  | null => "null"
  | array => "array"
  | iterable => "iterable"
  | callable => "callable"
  | object => "object"
  | mixed => "mixed"
  | void => "void"
  | never => "never"

/-- Keywords are read in any case; three types have a second keyword. -/
def ofWord? (s : String) : Option NativeType :=
  match Text.fold s with
  | "int" => some int
  | "integer" => some int
  | "float" => some float
  | "double" => some float
  | "string" => some string
  | "bool" => some bool
  | "boolean" => some bool
  | "true" => some literalTrue
  | "false" => some literalFalse
  | "null" => some null
  | "array" => some array
  | "iterable" => some iterable
  | "callable" => some callable
  | "object" => some object
  | "mixed" => some mixed
  | "void" => some void
  | "never" => some never
  | _ => none

end NativeType

end GotoDefinition
