import GotoDefinition.Json.Text
import GotoDefinition.Ty.Union

/-!
# GotoDefinition.Json.Reader

Reading typed values out of JSON values.

A reader goes through a value from left to right and fails at the first thing it cannot use. It
tells apart only a text that is no type and everything else.

* `Fields.read` — a structure, from an object of named fields or an array of fields in their order.
* `Reader.document` — a whole text.
-/

namespace GotoDefinition

inductive ReadError where
  /-- Not JSON, or not of the wanted form. -/
  | form
  | type (e : TypeError)
  deriving DecidableEq, Repr

abbrev Reader (α : Type) :=
  Json → Except ReadError α

namespace Reader

/-! ## Single values -/

def text : Reader String
  | .string (some s) => .ok s
  | _ => .error .form

def bool : Reader Bool
  | .bool b => .ok b
  | _ => .error .form

def uint32 : Reader UInt32
  | .natural n => if n < UInt32.size then .ok (UInt32.ofNat n) else .error .form
  | _ => .error .form

/-- `null` stands for nothing. -/
def option {α : Type} (read : Reader α) : Reader (Option α)
  | .null => .ok none
  | v =>
    match read v with
    | .ok a => .ok (some a)
    | .error e => .error e

def mapText {α : Type} (f : String → α) : Reader α := fun v =>
  match text v with
  | .ok s => .ok (f s)
  | .error e => .error e

def items {α : Type} (read : Reader α) : List Json → Except ReadError (List α)
  | [] => .ok []
  | v :: vs =>
    match read v with
    | .error e => .error e
    | .ok a =>
      match items read vs with
      | .error e => .error e
      | .ok as => .ok (a :: as)

def list {α : Type} (read : Reader α) : Reader (List α)
  | .array vs => items read vs
  | _ => .error .form

/-- Reads a whole text. Nothing but white space may follow the value. -/
def document {α : Type} (read : Reader α) (s : String) : Except ReadError α :=
  let (v, ends) := Json.ofText s
  match read v with
  | .error e => .error e
  | .ok a => if ends then .ok a else .error .form

end Reader

/-! ## Structures -/

/-- What becomes of a field that the structure does not have. -/
inductive Unknown where
  | refused
  | skipped
  deriving DecidableEq

/-- The fields of a structure: name, reader, and the value of a field that is left out. -/
inductive Fields : List Type → Type 1 where
  | nil : Fields []
  | cons {α : Type} {αs : List Type} (name : String) (read : Reader α) (default? : Option α)
      (rest : Fields αs) : Fields (α :: αs)

/-- The fields that have been read so far. -/
def Draft : List Type → Type
  | [] => Unit
  | α :: αs => Option α × Draft αs

def Values : List Type → Type
  | [] => Unit
  | α :: αs => α × Values αs

namespace Fields

variable {αs : List Type}

def required {α : Type} (name : String) (read : Reader α) (rest : Fields αs) : Fields (α :: αs) :=
  .cons name read none rest

def optional {α : Type} (name : String) (read : Reader α) (default : α) (rest : Fields αs) :
    Fields (α :: αs) :=
  .cons name read (some default) rest

def names : {αs : List Type} → Fields αs → List String
  | _, .nil => []
  | _, .cons name _ _ rest => name :: rest.names

def blank : {αs : List Type} → Fields αs → Draft αs
  | _, .nil => ()
  | _, .cons _ _ _ rest => (none, rest.blank)

/-- Reads one field. A field may be given once; `none` is a field that the structure has not. -/
def put : {αs : List Type} → Fields αs → Draft αs → String → Json →
    Option (Except ReadError (Draft αs))
  | _, .nil, _, _, _ => none
  | _, .cons name read _ rest, (slot, more), key, v =>
    if key = name then
      match slot with
      | some _ => some (.error .form)
      | none =>
        match read v with
        | .ok a => some (.ok (some a, more))
        | .error e => some (.error e)
    else
      match rest.put more key v with
      | none => none
      | some (.ok more) => some (.ok (slot, more))
      | some (.error e) => some (.error e)

/-- Reads fields in the order in which they are written. -/
def fill (fs : Fields αs) (unknown : Unknown) (d : Draft αs) :
    List (Option String × Json) → Except ReadError (Draft αs)
  | [] => .ok d
  | (none, _) :: _ => .error .form
  | (some key, v) :: entries =>
    match fs.put d key v with
    | some (.ok d) => fs.fill unknown d entries
    | some (.error e) => .error e
    | none =>
      if unknown = .skipped && v.isComplete then fs.fill unknown d entries else .error .form

/-- Fields that were left out get their default; one without a default may not be left out. -/
def complete : {αs : List Type} → Fields αs → Draft αs → Except ReadError (Values αs)
  | _, .nil, _ => .ok ()
  | _, .cons _ _ default? rest, (slot, more) =>
    match slot.or default? with
    | none => .error .form
    | some a =>
      match rest.complete more with
      | .ok as => .ok (a, as)
      | .error e => .error e

/-- The elements of an array stand for the fields in their order. -/
def positional (fs : Fields αs) (items : List Json) : List (Option String × Json) :=
  (fs.names.map some).zip items

def read (fs : Fields αs) (unknown : Unknown) : Reader (Values αs)
  | .object entries =>
    match fs.fill unknown fs.blank entries with
    | .ok d => fs.complete d
    | .error e => .error e
  | .array items =>
    match fs.fill unknown fs.blank (fs.positional items) with
    | .error e => .error e
    | .ok d => if fs.names.length < items.length then .error .form else fs.complete d
  | _ => .error .form

end Fields

end GotoDefinition
