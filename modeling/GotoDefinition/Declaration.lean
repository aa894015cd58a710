import GotoDefinition.Location
import GotoDefinition.Name
import GotoDefinition.Ty.Union

/-!
# GotoDefinition.Declaration

What a name can lead to: declarations of classes, members, functions and constants.

Properties, methods and functions have a declared type, which a request for the definition of a
type goes on to.
-/

namespace GotoDefinition

inductive ClassKind where
  | ordinary
  | interface
  | trait
  | enum
  deriving DecidableEq, Repr

namespace ClassKind

def word : ClassKind → String
  | .ordinary => "class"
  | .interface => "interface"
  | .trait => "trait"
  | .enum => "enum"

def ofWord? : String → Option ClassKind
  | "class" => some .ordinary
  | "interface" => some .interface
  | "trait" => some .trait
  | "enum" => some .enum
  | _ => none

end ClassKind

structure ClassDecl where
  name : ClassName
  kind : ClassKind
  location : Location
  deriving DecidableEq

structure PropertyDecl where
  name : MemberName .property
  isStatic : Bool
  type : UnionType
  location : Location
  deriving DecidableEq

structure MethodDecl where
  name : MemberName .method
  isStatic : Bool
  returns : UnionType
  location : Location
  deriving DecidableEq

/-- A function or closure. -/
structure FunctionDecl where
  name : FunctionName
  returns : UnionType
  location : Location
  deriving DecidableEq

structure ClassConstantDecl where
  name : MemberName .constant
  location : Location
  deriving DecidableEq

structure ConstantDecl where
  name : ConstantName
  location : Location
  deriving DecidableEq

inductive Declaration where
  | classLike (d : ClassDecl)
  | property (d : PropertyDecl)
  | method (d : MethodDecl)
  | function (d : FunctionDecl)
  | classConstant (d : ClassConstantDecl)
  | constant (d : ConstantDecl)
  deriving DecidableEq

namespace Declaration

def location : Declaration → Location
  | .classLike d => d.location
  | .property d => d.location
  | .method d => d.location
  | .function d => d.location
  | .classConstant d => d.location
  | .constant d => d.location

/-- The declared name as text. -/
def name : Declaration → String
  | .classLike d => d.name.text
  | .property d => d.name.text
  | .method d => d.name.text
  | .function d => d.name.text
  | .classConstant d => d.name.text
  | .constant d => d.name.text

def declaredType? : Declaration → Option UnionType
  | .property d => some d.type
  | .method d => some d.returns
  | .function d => some d.returns
  | .classLike _ => none
  | .classConstant _ => none
  | .constant _ => none

end Declaration

end GotoDefinition
