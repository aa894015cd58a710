import GotoDefinition.Request

/-!
# GotoDefinition.Resolver

Finding what a node refers to.

The shape of the node decides which oracle is asked. A node that cannot be resolved adds nothing to
a request, and one whose functions are not all known adds none of them.

* `Resolver.targets` — what a node refers to, or why that cannot be said.
* `Resolver.records` — the same with every failure turned into nothing.
* `Resolver.resolve` — puts it behind the records of a request.
-/

namespace GotoDefinition

/-- Which requests are answered at all. -/
structure Toggles where
  enabled : Bool
  /-- Counts only when requests are enabled. -/
  typeDefinition : Bool
  deriving DecidableEq, Repr

def Toggles.all : Toggles :=
  ⟨true, true⟩

def Toggles.allow (t : Toggles) : Mode → Bool
  | .definition => t.enabled
  | .typeDefinition => t.enabled && t.typeDefinition

structure Resolver where
  types : TypeOracle
  index : SymbolIndex
  members : MemberOracle
  toggles : Toggles

/-- All answers, or the first failure. -/
def allOrFirstError {ε α : Type} : List (Except ε α) → Except ε (List α)
  | [] => .ok []
  | .error e :: _ => .error e
  | .ok a :: rest =>
    match allOrFirstError rest with
    | .error e => .error e
    | .ok as => .ok (a :: as)

namespace Resolver

/-- The class constant that names the class itself. -/
def classConstantName : String :=
  "class"

/-- Every class of the type of a node that is in the index. -/
def classTargets (r : Resolver) (ctx : Context) (n : Node) : Except LookupError (List Record) :=
  match r.types.typeOf ctx n with
  | .error e => .error e
  | .ok u =>
    .ok (((u.classes.filter r.index.hasClass).filterMap r.index.findClass?).map fun d =>
      .declaration (.classLike d) false)

def propertyTargets (r : Resolver) (ctx : Context) (n : Node) (isStatic : Bool) :
    Except LookupError (List Record) :=
  match r.members.property ctx n isStatic with
  | .error e => .error e
  | .ok d => .ok [.declaration (.property d) true]

def methodTargets (r : Resolver) (ctx : Context) (n : Node) (isStatic : Bool) (name : NameSlot) :
    Except LookupError (List Record) :=
  match name.literal? with
  | none => .error (.computedName "method")
  | some name =>
    match r.members.method ctx n name isStatic with
    | .error e => .error e
    | .ok d => .ok [.declaration (.method d) true]

def callTargets (r : Resolver) (ctx : Context) (callee : Node) :
    Except LookupError (List Record) :=
  match allOrFirstError (r.members.functions ctx callee) with
  | .error e => .error e
  | .ok ds => .ok (ds.map fun d => .declaration (.function d) true)

/-- `Foo::class` refers to what `Foo` refers to. -/
def classConstantTargets (r : Resolver) (ctx : Context) (n receiver : Node) (name : NameSlot) :
    Except LookupError (List Record) :=
  match name.literal? with
  | none => .error (.computedName "constant")
  | some name =>
    if Text.alike name classConstantName then r.classTargets ctx receiver
    else
      match r.members.classConstant ctx n with
      | .error e => .error e
      | .ok d => .ok [.declaration (.classConstant d) false]

def constantTargets (r : Resolver) (ctx : Context) (n : Node) : Except LookupError (List Record) :=
  match r.members.constant ctx n with
  | .error e => .error e
  | .ok d => .ok [.declaration (.constant d) false]

/-- A variable has a type but no declaration. -/
def variableTargets (mode : Mode) (ctx : Context) (name : NameSlot) :
    Except LookupError (List Record) :=
  match mode with
  | .definition => .ok []
  | .typeDefinition =>
    match name.literal? with
    | none => .error (.computedName "variable")
    | some name =>
      match ctx.findVariable? name with
      | none => .error (.undeclared ("$" ++ name))
      | some v => .ok [.variableType v]

def targets (r : Resolver) (mode : Mode) (ctx : Context) (n : Node) :
    Except LookupError (List Record) :=
  match n.shape with
  | .classRef _ => r.classTargets ctx n
  | .property isStatic _ _ => r.propertyTargets ctx n isStatic
  | .methodCall isStatic _ name => r.methodTargets ctx n isStatic name
  | .call callee => r.callTargets ctx callee
  | .classConstant receiver name => r.classConstantTargets ctx n receiver name
  | .constantRef _ => r.constantTargets ctx n
  | .variable name => variableTargets mode ctx name
  | .other => .ok []

def records (r : Resolver) (mode : Mode) (ctx : Context) (n : Node) : List Record :=
  if r.toggles.allow mode then
    match r.targets mode ctx n with
    | .ok records => records
    | .error _ => []
  else []

def resolve (r : Resolver) (ctx : Context) (n : Node) (req : Request) : Request :=
  req.append (r.records req.mode ctx n)

end Resolver

end GotoDefinition
