import GotoDefinition.Json.Reader
import GotoDefinition.Snapshot

/-!
# GotoDefinition.Document.Snapshot

Snapshots as JSON documents.

Every structure is an object of named fields or an array of the fields in the order given here;
fields of other names are refused.
-/

namespace GotoDefinition

namespace Reader

def name {kind : NameKind} : Reader (Name kind) :=
  mapText Name.ofText

def url : Reader Url := fun v =>
  match text v with
  | .error e => .error e
  | .ok s =>
    match Url.ofText? s with
    | some u => .ok u
    | none => .error .form

def unionType : Reader UnionType := fun v =>
  match text v with
  | .error e => .error e
  | .ok s =>
    match UnionType.ofText s with
    | .ok u => .ok u
    | .error e => .error (.type e)

/-- A word, or an object with the word as its only key and `null` as its value. -/
def classKind : Reader ClassKind
  | .string (some s) => (ClassKind.ofWord? s).elim (.error .form) .ok
  | .object [(some s, .null)] => (ClassKind.ofWord? s).elim (.error .form) .ok
  | _ => .error .form

/-! ## Entries -/

def propertyEntry : Reader PropertyEntry := fun v =>
  let fields := Fields.required "name" text <| .required "line" uint32 <|
    .optional "static" bool false <| .optional "type" unionType .empty .nil
  match fields.read .refused v with
  | .error e => .error e
  | .ok (name, line, isStatic, type, ()) => .ok ⟨name, line, isStatic, type⟩

def methodEntry : Reader MethodEntry := fun v =>
  let fields := Fields.required "name" text <| .required "line" uint32 <|
    .optional "static" bool false <| .optional "returns" unionType .empty .nil
  match fields.read .refused v with
  | .error e => .error e
  | .ok (name, line, isStatic, returns, ()) => .ok ⟨name, line, isStatic, returns⟩

def classConstantEntry : Reader ClassConstantEntry := fun v =>
  let fields := Fields.required "name" text <| .required "line" uint32 .nil
  match fields.read .refused v with
  | .error e => .error e
  | .ok (name, line, ()) => .ok ⟨name, line⟩

def classEntry : Reader ClassEntry := fun v =>
  let fields := Fields.required "fqsen" name <| .optional "kind" classKind .ordinary <|
    .required "file" url <| .required "line" uint32 <| .optional "parent" (option name) none <|
    .optional "interfaces" (list name) [] <| .optional "traits" (list name) [] <|
    .optional "properties" (list propertyEntry) [] <| .optional "methods" (list methodEntry) [] <|
    .optional "constants" (list classConstantEntry) [] .nil
  match fields.read .refused v with
  | .error e => .error e
  | .ok (name, kind, file, line, parent, interfaces, traits, properties, methods, constants, ()) =>
    .ok ⟨name, kind, file, line, parent, interfaces, traits, properties, methods, constants⟩

def functionEntry : Reader FunctionEntry := fun v =>
  let fields := Fields.required "fqsen" name <| .required "file" url <|
    .required "line" uint32 <| .optional "returns" unionType .empty .nil
  match fields.read .refused v with
  | .error e => .error e
  | .ok (name, file, line, returns, ()) => .ok ⟨name, file, line, returns⟩

def constantEntry : Reader ConstantEntry := fun v =>
  let fields := Fields.required "fqsen" name <| .required "file" url <|
    .required "line" uint32 .nil
  match fields.read .refused v with
  | .error e => .error e
  | .ok (name, file, line, ()) => .ok ⟨name, file, line⟩

def snapshot : Reader Snapshot := fun v =>
  let fields := Fields.optional "classes" (list classEntry) [] <|
    .optional "functions" (list functionEntry) [] <|
    .optional "constants" (list constantEntry) [] .nil
  match fields.read .refused v with
  | .error e => .error e
  | .ok (classes, functions, constants, ()) => .ok ⟨classes, functions, constants⟩

end Reader

end GotoDefinition
