import GotoDefinition.CodeBase.Lineage
import GotoDefinition.Resolver

/-!
# GotoDefinition.CodeBase.Inference

The types of expressions and the members that nodes refer to, as a code base knows them.

A variable has the type that the scope gives it, a member access the declared type of the member;
there is no flow analysis. A member is sought in the classes of the receiver's type, in the order of
the union, and the first class that has it decides.

* `typeOf` — the type of an expression.
* `members` — the members, functions and constants that nodes refer to.
* `resolver` — the resolver that asks the code base alone.
-/

namespace GotoDefinition

namespace CodeBase

/-! ## Names -/

/-- The type that a class name stands for: the surrounding class or its parent, a built-in type, or
the class that the name resolves to. -/
def namedType (cb : CodeBase) (ctx : Context) (name : String) : Except LookupError Ty :=
  let word := Text.fold name
  if word == "self" || word == "static" then
    match ctx.enclosingClass with
    | some c => .ok (.instanceOf c)
    | none => .error (.unresolved ("`" ++ name ++ "` outside a class"))
  else if word == "parent" then
    match ctx.enclosingClass with
    | none => .error (.unresolved "`parent` outside a class")
    | some c =>
      match cb.findClass? c with
      | none => .error (.notIndexed c.text)
      | some e =>
        match e.parent with
        | none => .error (.undeclared ("parent of " ++ c.text))
        | some p => .ok (.instanceOf p)
  else
    match if name.toList.contains '\\' then none else NativeType.ofWord? name with
    | some t => .ok (.native t)
    | none => .ok (.instanceOf (ctx.resolveClass name))

def variableType (ctx : Context) (name : NameSlot) : Except LookupError UnionType :=
  match name.literal? with
  | none => .error (.computedName "variable")
  | some name =>
    match ctx.findVariable? name with
    | none => .error (.undeclared ("$" ++ name))
    | some v => .ok v.type

def namedFunction (cb : CodeBase) (ctx : Context) (name : String) :
    Except LookupError FunctionDecl :=
  match (ctx.candidates name).findSome? fun text => cb.findFunction? (Name.ofText text) with
  | some d => .ok d
  | none => .error (.undeclared (name ++ "()"))

def namedConstant (cb : CodeBase) (ctx : Context) (name : String) :
    Except LookupError ConstantDecl :=
  match (ctx.candidates name).findSome? fun text => cb.findConstant? (Name.ofText text) with
  | some d => .ok d
  | none => .error (.undeclared name)

/-! ## Members of a receiver -/

/-- The classes of a receiver's type; there has to be one. -/
def receiverClasses (label : String) (type : Except LookupError UnionType) :
    Except LookupError (List ClassName) :=
  match type with
  | .error e => .error e
  | .ok u =>
    match u.classes with
    | [] => .error (.unresolved (label ++ " of type `" ++ u.text ++ "` as an object"))
    | c :: cs => .ok (c :: cs)

/-- The member of the first class that has it. Where none has, the failure names the first class
when no class is in the index, and the member in it otherwise. -/
def firstMember {α : Type} (cb : CodeBase) (describe : ClassName → String)
    (find : ClassName → Option α) : List ClassName → Except LookupError α
  | [] => .error (.unresolved "member access without a receiver")
  | c :: cs =>
    match ((c :: cs).filter cb.hasClass).findSome? find with
    | some member => .ok member
    | none =>
      if (c :: cs).any cb.hasClass then .error (.undeclared (describe c))
      else .error (.notIndexed c.text)

def memberOf {α : Type} (cb : CodeBase) (receiver : Node) (type : Except LookupError UnionType)
    (describe : ClassName → String) (find : ClassName → Option α) : Except LookupError α :=
  match receiverClasses receiver.label type with
  | .error e => .error e
  | .ok cs => cb.firstMember describe find cs

def propertyOf (cb : CodeBase) (receiver : Node) (type : Except LookupError UnionType)
    (name : NameSlot) (isStatic : Bool) : Except LookupError PropertyDecl :=
  match name.literal? with
  | none => .error (.computedName "property")
  | some name =>
    cb.memberOf receiver type (fun c => c.text ++ "::$" ++ name)
      (cb.findProperty? · name isStatic)

def methodOf (cb : CodeBase) (receiver : Node) (type : Except LookupError UnionType)
    (name : String) : Except LookupError MethodDecl :=
  cb.memberOf receiver type (fun c => c.text ++ "::" ++ name ++ "()") (cb.findMethod? · name)

def classConstantOf (cb : CodeBase) (receiver : Node) (type : Except LookupError UnionType)
    (name : NameSlot) : Except LookupError ClassConstantDecl :=
  match name.literal? with
  | none => .error (.computedName "constant")
  | some name =>
    cb.memberOf receiver type (fun c => c.text ++ "::" ++ name) (cb.findClassConstant? · name)

/-! ## Functions of a callee -/

/-- The functions of the closures of a type. -/
def closureFunctions (cb : CodeBase) (type : Except LookupError UnionType) :
    List (Except LookupError FunctionDecl) :=
  match type with
  | .error e => [.error e]
  | .ok u =>
    u.closures.map fun f =>
      match cb.findFunction? f with
      | some d => .ok d
      | none => .error (.notIndexed f.text)

/-- A name is the name of a function; any other callee is called through its value. -/
def functionsOf (cb : CodeBase) (ctx : Context) (callee : Node)
    (type : Except LookupError UnionType) : List (Except LookupError FunctionDecl) :=
  match callee.shape with
  | .classRef name => [cb.namedFunction ctx name]
  | _ => cb.closureFunctions type

/-- The types that the functions return, one after the other. -/
def mergeReturns (u : UnionType) :
    List (Except LookupError FunctionDecl) → Except LookupError UnionType
  | [] => .ok u
  | .error e :: _ => .error e
  | .ok d :: rest => mergeReturns (u.merge d.returns) rest

/-! ## Types of expressions -/

/-- The constants that have a type of their own. -/
def constantType? (name : String) : Option NativeType :=
  match NativeType.ofWord? name with
  | some .literalTrue => some .literalTrue
  | some .literalFalse => some .literalFalse
  | some .null => some .null
  | _ => none

/-- The values of other constants are not known; the constant has to be declared. -/
def typeOf (cb : CodeBase) (ctx : Context) : Node → Except LookupError UnionType
  | .mk (.classRef name) _ =>
    match cb.namedType ctx name with
    | .error e => .error e
    | .ok t => .ok (UnionType.ofList [t])
  | .mk (.variable name) _ => variableType ctx name
  | .mk (.property isStatic receiver name) _ =>
    match cb.propertyOf receiver (cb.typeOf ctx receiver) name isStatic with
    | .error e => .error e
    | .ok d => .ok d.type
  | .mk (.methodCall _ receiver name) _ =>
    match name.literal? with
    | none => .error (.computedName "method")
    | some name =>
      match cb.methodOf receiver (cb.typeOf ctx receiver) name with
      | .error e => .error e
      | .ok d => .ok d.returns
  | .mk (.call callee) _ =>
    mergeReturns UnionType.empty (cb.functionsOf ctx callee (cb.typeOf ctx callee))
  | .mk (.classConstant receiver name) _ =>
    match name.literal? with
    | none => .error (.computedName "constant")
    | some text =>
      if Text.alike text "class" then .ok (UnionType.ofList [.native .string])
      else
        match cb.classConstantOf receiver (cb.typeOf ctx receiver) name with
        | .error e => .error e
        | .ok _ => .ok UnionType.empty
  | .mk (.constantRef name) _ =>
    match constantType? name with
    | some t => .ok (UnionType.ofList [.native t])
    | none =>
      match cb.namedConstant ctx name with
      | .error e => .error e
      | .ok _ => .ok UnionType.empty
  | .mk .other _ => .ok UnionType.empty

/-! ## What nodes refer to -/

def wrongShape (n : Node) (wanted : String) : LookupError :=
  .unresolved (n.label ++ " as a " ++ wanted)

def propertyAt (cb : CodeBase) (ctx : Context) (n : Node) (isStatic : Bool) :
    Except LookupError PropertyDecl :=
  match n.shape with
  | .property nodeStatic receiver name =>
    if nodeStatic = isStatic then cb.propertyOf receiver (cb.typeOf ctx receiver) name isStatic
    else .error (wrongShape n "property access")
  | _ => .error (wrongShape n "property access")

def methodAt (cb : CodeBase) (ctx : Context) (n : Node) (name : String) (isStatic : Bool) :
    Except LookupError MethodDecl :=
  match n.shape with
  | .methodCall nodeStatic receiver _ =>
    if nodeStatic = isStatic then cb.methodOf receiver (cb.typeOf ctx receiver) name
    else .error (wrongShape n "method call")
  | _ => .error (wrongShape n "method call")

def classConstantAt (cb : CodeBase) (ctx : Context) (n : Node) :
    Except LookupError ClassConstantDecl :=
  match n.shape with
  | .classConstant receiver name => cb.classConstantOf receiver (cb.typeOf ctx receiver) name
  | _ => .error (wrongShape n "class constant")

def constantAt (cb : CodeBase) (ctx : Context) (n : Node) : Except LookupError ConstantDecl :=
  match n.shape with
  | .constantRef name => cb.namedConstant ctx name
  | _ => .error (wrongShape n "constant")

def functionsAt (cb : CodeBase) (ctx : Context) (n : Node) :
    List (Except LookupError FunctionDecl) :=
  cb.functionsOf ctx n (cb.typeOf ctx n)

/-! ## The code base as oracles -/

def types (cb : CodeBase) : TypeOracle where
  typeOf := cb.typeOf

def members (cb : CodeBase) : MemberOracle where
  property := cb.propertyAt
  method := cb.methodAt
  classConstant := cb.classConstantAt
  constant := cb.constantAt
  functions := cb.functionsAt

/-- A code base as all three oracles of a resolver. -/
def resolver (cb : CodeBase) (toggles : Toggles) : Resolver :=
  ⟨cb.types, cb.index, cb.members, toggles⟩

end CodeBase

end GotoDefinition
