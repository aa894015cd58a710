import GotoDefinition.Context
import GotoDefinition.Document.Snapshot

/-!
# GotoDefinition.Document.Context

Contexts as JSON documents.

Every field may be left out and fields of other names are skipped. A context is written with all of
its fields.
-/

namespace GotoDefinition

/-! ## Reading -/

namespace Reader

def variableDocument : Reader Variable := fun v =>
  let fields := Fields.required "name" text <| .optional "type" unionType .empty .nil
  match fields.read .skipped v with
  | .error e => .error e
  | .ok (name, type, ()) => .ok ⟨name, type⟩

/-- The variables are taken as they are listed. -/
def scope : Reader Scope := fun v =>
  match list variableDocument v with
  | .error e => .error e
  | .ok vs => .ok ⟨vs⟩

/-- Of several entries for an alias the last counts. -/
def importEntries (is : Imports) : List (Option String × Json) → Except ReadError Imports
  | [] => .ok is
  | (some key, .string (some target)) :: rest => importEntries (is.insert key target) rest
  | _ => .error .form

def imports : Reader Imports
  | .object entries => importEntries .empty entries
  | _ => .error .form

def context : Reader Context := fun v =>
  let fields := Fields.optional "file" (option url) none <|
    .optional "namespace" (option text) none <| .optional "use_map" imports .empty <|
    .optional "class" (option name) none <| .optional "function" (option text) none <|
    .optional "scope" scope .empty .nil
  match fields.read .skipped v with
  | .error e => .error e
  | .ok (file, currentNamespace, imports, enclosingClass, enclosingFunction, scope, ()) =>
    .ok ⟨file, currentNamespace, imports, enclosingClass, enclosingFunction, scope⟩

end Reader

/-! ## Writing -/

def Variable.toJson (v : Variable) : Json :=
  .obj [("name", .str v.name), ("type", .str v.type.text)]

def Scope.toJson (s : Scope) : Json :=
  .array (s.entries.map Variable.toJson)

def Imports.toJson (is : Imports) : Json :=
  .obj (is.entries.map fun (key, target) => (key, .str target))

def Context.toJson (ctx : Context) : Json :=
  .obj [
    ("file", .orNull (ctx.file.map fun u => .str u.text)),
    ("namespace", .orNull (ctx.currentNamespace.map .str)),
    ("use_map", ctx.imports.toJson),
    ("class", .orNull (ctx.enclosingClass.map fun c => .str c.text)),
    ("function", .orNull (ctx.enclosingFunction.map .str)),
    ("scope", ctx.scope.toJson)]

end GotoDefinition
