import GotoDefinition.Json.Reader
import GotoDefinition.Node

/-!
# GotoDefinition.Document.Node

Nodes as JSON documents.

A node is an object with the kind of its shape, the fields that the kind calls for, and its range.
Fields of other names are skipped, and a node of an unknown kind is `other`. A name is a string, or
a node when it is computed.

Which fields a node has depends on its kind, which may be written behind them. So the fields are
kept until the kind is known, and what is kept has to be whole (`Json.isHeld`).
-/

namespace GotoDefinition

/-! ## Kinds -/

inductive ShapeKind where
  | classRef
  | instanceProperty
  | staticProperty
  | instanceMethodCall
  | staticMethodCall
  | call
  | classConstant
  | constantRef
  | variable
  | other
  deriving DecidableEq

namespace ShapeKind

def word : ShapeKind → String
  | .classRef => "name_ref"
  | .instanceProperty => "instance_prop"
  | .staticProperty => "static_prop"
  | .instanceMethodCall => "instance_method_call"
  | .staticMethodCall => "static_method_call"
  | .call => "call"
  | .classConstant => "class_const_access"
  | .constantRef => "global_const_ref"
  | .variable => "var_ref"
  | .other => "other"

/-- The kinds that a document can name, in the order in which they are numbered. -/
def named : List ShapeKind :=
  [.classRef, .instanceProperty, .staticProperty, .instanceMethodCall, .staticMethodCall, .call,
    .classConstant, .constantRef, .variable]

def ofWord (s : String) : ShapeKind :=
  (named.find? (·.word == s)).getD .other

/-- A kind is given by its word or by its number. -/
def read : Reader ShapeKind
  | .string (some s) => .ok (ofWord s)
  | .natural n => if n < UInt64.size then .ok (named[n]?.getD .other) else .error .form
  | _ => .error .form

end ShapeKind

/-! ## Reading -/

namespace Reader

def position : Reader Position := fun v =>
  let fields := Fields.required "line" uint32 <| .required "character" uint32 .nil
  match fields.read .skipped v with
  | .error e => .error e
  | .ok (line, character, ()) => .ok ⟨line, character⟩

def range : Reader Range := fun v =>
  let fields := Fields.required "start" position <| .required "end" position .nil
  match fields.read .skipped v with
  | .error e => .error e
  | .ok (start, stop, ()) => .ok ⟨start, stop⟩

end Reader

/-- A field of a node: its value, and what that is when it is read as a node. -/
structure NodeField where
  key : Option String
  value : Json
  node : Except ReadError Node

namespace NodeField

/-- The field of the given name; it has to be there once. -/
def the (name : String) (fields : List NodeField) : Except ReadError NodeField :=
  match fields.filter (·.key == some name) with
  | [f] => .ok f
  | _ => .error .form

def theText (name : String) (fields : List NodeField) : Except ReadError String :=
  match the name fields with
  | .ok f => Reader.text f.value
  | .error e => .error e

def theNode (name : String) (fields : List NodeField) : Except ReadError Node :=
  match the name fields with
  | .ok f => f.node
  | .error e => .error e

def theName (name : String) (fields : List NodeField) : Except ReadError NameSlot :=
  match the name fields with
  | .error e => .error e
  | .ok f =>
    match f.value with
    | .string (some s) => .ok (.literal s)
    | _ =>
      match f.node with
      | .ok n => .ok (.computed n)
      | .error e => .error e

/-- A range that is left out is the empty one at the start of the text. -/
def theRange (fields : List NodeField) : Except ReadError Range :=
  match fields.filter (·.key == some "range") with
  | [] => .ok Range.zero
  | [f] => Reader.range f.value
  | _ => .error .form

/-- A shape with a receiver and a name. -/
def withReceiver (make : Node → NameSlot → Shape) (receiver name : String)
    (fields : List NodeField) : Except ReadError Shape :=
  match theNode receiver fields with
  | .error e => .error e
  | .ok n =>
    match theName name fields with
    | .error e => .error e
    | .ok slot => .ok (make n slot)

def theShape (fields : List NodeField) : ShapeKind → Except ReadError Shape
  | .classRef => (theText "name" fields).map .classRef
  | .instanceProperty => withReceiver (.property false) "object" "property" fields
  | .staticProperty => withReceiver (.property true) "class" "property" fields
  | .instanceMethodCall => withReceiver (.methodCall false) "object" "method" fields
  | .staticMethodCall => withReceiver (.methodCall true) "class" "method" fields
  | .call => (theNode "callee" fields).map .call
  | .classConstant => withReceiver .classConstant "class" "constant" fields
  | .constantRef => (theText "name" fields).map .constantRef
  | .variable => (theName "name" fields).map .variable
  | .other => .ok .other

/-- The node that has the fields. -/
def assemble (fields : List NodeField) : Except ReadError Node :=
  match the "kind" fields with
  | .error e => .error e
  | .ok f =>
    match ShapeKind.read f.value with
    | .error e => .error e
    | .ok kind =>
      match theRange fields with
      | .error e => .error e
      | .ok r =>
        match theShape fields kind with
        | .error e => .error e
        | .ok s => .ok (.mk s r)

end NodeField

mutual

/-- Reads a node whose fields have been kept. -/
def Reader.heldNode : Json → Except ReadError Node
  | .object fields => NodeField.assemble (Reader.heldFields fields)
  | _ => .error .form

def Reader.heldFields : List (Option String × Json) → List NodeField
  | [] => []
  | (k, v) :: fields => ⟨k, v, Reader.heldNode v⟩ :: Reader.heldFields fields

end

/-- How many levels of brackets a document may have. -/
def nestingLimit : Nat :=
  127

/-- Reads a node that stands inside the given number of brackets. Its range is read at once; all
other fields are kept. -/
def Reader.node (outside : Nat) : Reader Node
  | .object fields =>
    let isHeldField : Option String × Json → Bool
      | (some "range", _) => true
      | (some _, v) => v.isHeld (nestingLimit - 1 - outside)
      | (none, _) => false
    if fields.all isHeldField then Reader.heldNode (.object fields) else .error .form
  | _ => .error .form

/-! ## Writing -/

def Position.toJson (p : Position) : Json :=
  .obj [("line", .natural p.line.toNat), ("character", .natural p.character.toNat)]

def Range.toJson (r : Range) : Json :=
  .obj [("start", r.start.toJson), ("end", r.stop.toJson)]

def Location.toJson (l : Location) : Json :=
  .obj [("uri", .str l.uri.text), ("range", l.range.toJson)]

mutual

def Node.toJson : Node → Json
  | .mk s r => .obj (s.toFields ++ [("range", r.toJson)])

def Shape.toFields : Shape → List (String × Json)
  | .classRef name => [("kind", .str ShapeKind.classRef.word), ("name", .str name)]
  | .property false receiver name =>
    [("kind", .str ShapeKind.instanceProperty.word), ("object", receiver.toJson),
      ("property", name.toJson)]
  | .property true receiver name =>
    [("kind", .str ShapeKind.staticProperty.word), ("class", receiver.toJson),
      ("property", name.toJson)]
  | .methodCall false receiver name =>
    [("kind", .str ShapeKind.instanceMethodCall.word), ("object", receiver.toJson),
      ("method", name.toJson)]
  | .methodCall true receiver name =>
    [("kind", .str ShapeKind.staticMethodCall.word), ("class", receiver.toJson),
      ("method", name.toJson)]
  | .call callee => [("kind", .str ShapeKind.call.word), ("callee", callee.toJson)]
  | .classConstant receiver name =>
    [("kind", .str ShapeKind.classConstant.word), ("class", receiver.toJson),
      ("constant", name.toJson)]
  | .constantRef name => [("kind", .str ShapeKind.constantRef.word), ("name", .str name)]
  | .variable name => [("kind", .str ShapeKind.variable.word), ("name", name.toJson)]
  | .other => [("kind", .str ShapeKind.other.word)]

def NameSlot.toJson : NameSlot → Json
  | .literal name => .str name
  | .computed n => n.toJson

end

end GotoDefinition
