import GotoDefinition.Imports
import GotoDefinition.Name
import GotoDefinition.Scope
import GotoDefinition.Url.Basic

/-!
# GotoDefinition.Context

The lexical surroundings of a node, and what names mean in them.

* `resolveClass` — the class that a name denotes: names behind a `\` are complete, the first segment
  of others is looked up among the imports, and what no import matches belongs to the namespace.
* `candidates` — the functions or constants that a name may denote: a name of one segment is sought
  in the namespace and then globally.
-/

namespace GotoDefinition

structure Context where
  file : Option Url
  /-- Written without a `\` in front, as `App\Models`. -/
  currentNamespace : Option String
  imports : Imports
  enclosingClass : Option ClassName
  /-- Decides nothing. -/
  enclosingFunction : Option String
  scope : Scope
  deriving DecidableEq

namespace Context

def empty : Context :=
  ⟨none, none, Imports.empty, none, none, Scope.empty⟩

instance : Inhabited Context := ⟨empty⟩

def stripBackslashes (s : String) : String :=
  Text.stripLeading '\\' s

def inNamespace (name : String) : Context :=
  let trimmed := (Text.dropLeading '\\' (Text.dropLeading '\\' name.toList).reverse).reverse
  { empty with currentNamespace := some (String.ofList trimmed) }

def withClass (ctx : Context) (name : String) : Context :=
  { ctx with enclosingClass := some (Name.ofText name) }

def withImport (ctx : Context) (key target : String) : Context :=
  { ctx with imports := ctx.imports.insert key (stripBackslashes target) }

def withVariable (ctx : Context) (v : Variable) : Context :=
  { ctx with scope := ctx.scope.add v }

/-- Inside a class `this` is always an instance of that class. -/
def findVariable? (ctx : Context) (name : String) : Option Variable :=
  match if Text.stripLeading '$' name == "this" then ctx.enclosingClass else none with
  | some c => some ⟨"this", UnionType.ofList [.instanceOf c]⟩
  | none => ctx.scope.find? name

/-! ## Names -/

/-- The name in the current namespace. -/
def qualify (ctx : Context) (name : String) : String :=
  match ctx.currentNamespace with
  | some ns => if ns.isEmpty then name else ns ++ "\\" ++ name
  | none => name

/-- The first segment is replaced by what it is an alias of. -/
def expand (ctx : Context) (name : String) : String :=
  let cs := name.toList
  match ctx.imports.find? (String.ofList (cs.takeWhile (· != '\\'))) with
  | some target => target ++ String.ofList (cs.dropWhile (· != '\\'))
  | none => ctx.qualify name

def resolveClass (ctx : Context) (name : String) : ClassName :=
  match name.toList with
  | '\\' :: rest => Name.ofText (String.ofList rest)
  | _ => Name.ofText (ctx.expand name)

def candidates (ctx : Context) (name : String) : List String :=
  match name.toList with
  | '\\' :: rest => [String.ofList rest]
  | cs =>
    if cs.contains '\\' then [ctx.expand name]
    else if ctx.qualify name == name then [name]
    else [ctx.qualify name, name]

end Context

end GotoDefinition
