import GotoDefinition.Context
import GotoDefinition.Declaration
import GotoDefinition.Node

/-!
# GotoDefinition.Oracle

The questions that are asked to find a definition, and why an answer may be missing.

An oracle is a table of functions, so anything can stand in for a code base.
-/

namespace GotoDefinition

inductive LookupError where
  /-- The node is not of a shape, or not of a type, that the lookup can use. -/
  | unresolved (what : String)
  /-- Nothing declares the symbol. -/
  | undeclared (symbol : String)
  /-- The class or function is not in the index. -/
  | notIndexed (name : String)
  /-- The name is computed when the program runs. -/
  | computedName (role : String)
  deriving DecidableEq, Repr

def LookupError.message : LookupError → String
  | .unresolved what => "cannot resolve " ++ what
  | .undeclared symbol => "no declaration for `" ++ symbol ++ "`"
  | .notIndexed name => "`" ++ name ++ "` is not in the symbol index"
  | .computedName role => role ++ " name is not a literal"

/-- What an expression may evaluate to. -/
structure TypeOracle where
  typeOf : Context → Node → Except LookupError UnionType

/-- Classes by name. -/
structure SymbolIndex where
  hasClass : ClassName → Bool
  findClass? : ClassName → Option ClassDecl

/-- Members, functions and constants as seen from a context. -/
structure MemberOracle where
  /-- The property that a node refers to; the flag asks for a static one. -/
  property : Context → Node → Bool → Except LookupError PropertyDecl
  /-- The method of the given name that a node calls; the flag asks for a static call. -/
  method : Context → Node → String → Bool → Except LookupError MethodDecl
  classConstant : Context → Node → Except LookupError ClassConstantDecl
  constant : Context → Node → Except LookupError ConstantDecl
  /-- The functions that a callee may be, in order. One failure spoils them all. -/
  functions : Context → Node → List (Except LookupError FunctionDecl)

end GotoDefinition
