import GotoDefinition.Location
import GotoDefinition.Text.Segments

/-!
# GotoDefinition.Node

Syntax trees as far as names are looked up in them.

A node is a shape and the range it covers. The name of a member or variable is either written out
or computed by a node of its own (`$object->$name`).

* `Node.induction` — induction along receivers and callees, which is how types are inferred.
-/

namespace GotoDefinition

mutual

inductive Node where
  | mk (shape : Shape) (range : Range)

inductive Shape where
  /-- The name of a class: `Foo` in `new Foo` or `Foo::bar()`. -/
  | classRef (name : String)
  /-- `$receiver->name`, or `Receiver::$name` when static. -/
  | property (isStatic : Bool) (receiver : Node) (name : NameSlot)
  /-- `$receiver->name()`, or `Receiver::name()` when static. -/
  | methodCall (isStatic : Bool) (receiver : Node) (name : NameSlot)
  /-- `callee()` -/
  | call (callee : Node)
  /-- `Receiver::NAME` and `Receiver::class` -/
  | classConstant (receiver : Node) (name : NameSlot)
  /-- `NAME` -/
  | constantRef (name : String)
  /-- `$name` -/
  | variable (name : NameSlot)
  /-- Any other expression. -/
  | other

inductive NameSlot where
  | literal (name : String)
  | computed (node : Node)

end

/-! ## Equality -/

mutual

def Node.beq : Node → Node → Bool
  | .mk s r, .mk t q => s.beq t && r == q

def Shape.beq : Shape → Shape → Bool
  | .classRef a, .classRef b => a == b
  | .property i r a, .property j s b => i == j && r.beq s && a.beq b
  | .methodCall i r a, .methodCall j s b => i == j && r.beq s && a.beq b
  | .call c, .call d => c.beq d
  | .classConstant r a, .classConstant s b => r.beq s && a.beq b
  | .constantRef a, .constantRef b => a == b
  | .variable a, .variable b => a.beq b
  | .other, .other => true
  | _, _ => false

def NameSlot.beq : NameSlot → NameSlot → Bool
  | .literal a, .literal b => a == b
  | .computed m, .computed n => m.beq n
  | _, _ => false

end

mutual

theorem Node.beq_iff : ∀ m n : Node, m.beq n = true ↔ m = n
  | .mk s r, .mk t q => by simp [Node.beq, Shape.beq_iff s t]

theorem Shape.beq_iff : ∀ s t : Shape, s.beq t = true ↔ s = t
  | .classRef _, t => by cases t <;> simp [Shape.beq]
  | .property _ m a, t => by
    cases t <;> simp [Shape.beq, Node.beq_iff m, NameSlot.beq_iff a, and_assoc]
  | .methodCall _ m a, t => by
    cases t <;> simp [Shape.beq, Node.beq_iff m, NameSlot.beq_iff a, and_assoc]
  | .call m, t => by cases t <;> simp [Shape.beq, Node.beq_iff m]
  | .classConstant m a, t => by cases t <;> simp [Shape.beq, Node.beq_iff m, NameSlot.beq_iff a]
  | .constantRef _, t => by cases t <;> simp [Shape.beq]
  | .variable a, t => by cases t <;> simp [Shape.beq, NameSlot.beq_iff a]
  | .other, t => by cases t <;> simp [Shape.beq]

theorem NameSlot.beq_iff : ∀ a b : NameSlot, a.beq b = true ↔ a = b
  | .literal _, b => by cases b <;> simp [NameSlot.beq]
  | .computed m, b => by cases b <;> simp [NameSlot.beq, Node.beq_iff m]

end

instance : DecidableEq Node := fun m n => decidable_of_iff _ (Node.beq_iff m n)

instance : DecidableEq NameSlot := fun a b => decidable_of_iff _ (NameSlot.beq_iff a b)

/-! ## Parts of a node -/

namespace NameSlot

/-- The name, when it is written out. -/
def literal? : NameSlot → Option String
  | .literal name => some name
  | .computed _ => none

end NameSlot

namespace Shape

/-- What the shape is called in messages. -/
def label : Shape → String
  | .classRef _ => "name"
  | .property false _ _ => "instance property"
  | .property true _ _ => "static property"
  | .methodCall false _ _ => "instance method call"
  | .methodCall true _ _ => "static method call"
  | .call _ => "call"
  | .classConstant _ _ => "class constant"
  | .constantRef _ => "constant"
  | .variable _ => "variable"
  | .other => "other"

end Shape

namespace Node

def shape : Node → Shape
  | .mk s _ => s

def range : Node → Range
  | .mk _ r => r

/-- The same shape with another range. -/
def withRange (n : Node) (r : Range) : Node :=
  .mk n.shape r

def label (n : Node) : String :=
  n.shape.label

/-- The node whose type decides what a node denotes: the receiver or the callee. -/
def inner? : Node → Option Node
  | .mk (.property _ receiver _) _ => some receiver
  | .mk (.methodCall _ receiver _) _ => some receiver
  | .mk (.call callee) _ => some callee
  | .mk (.classConstant receiver _) _ => some receiver
  | _ => none

/-! ## Building nodes

Nodes built here have the empty range at the start of the text.
-/

def ofShape (s : Shape) : Node :=
  .mk s Range.zero

def classRef (name : String) : Node :=
  ofShape (.classRef name)

/-- The `$` in front of a variable is not part of its name. -/
def variableNamed (name : String) : Node :=
  ofShape (.variable (.literal (Text.stripLeading '$' name)))

def constantRef (name : String) : Node :=
  ofShape (.constantRef name)

def call (callee : Node) : Node :=
  ofShape (.call callee)

def property (receiver : Node) (name : NameSlot) : Node :=
  ofShape (.property false receiver name)

def staticProperty (receiver : Node) (name : NameSlot) : Node :=
  ofShape (.property true receiver name)

def methodCall (receiver : Node) (name : NameSlot) : Node :=
  ofShape (.methodCall false receiver name)

def staticCall (receiver : Node) (name : NameSlot) : Node :=
  ofShape (.methodCall true receiver name)

def classConstant (receiver : Node) (name : NameSlot) : Node :=
  ofShape (.classConstant receiver name)

def other : Node :=
  ofShape .other

/-! ## Induction -/

/-- What holds of a node whenever it holds of its receiver or callee holds of every node. -/
theorem induction {motive : Node → Prop}
    (step : ∀ n, (∀ m, n.inner? = some m → motive m) → motive n) : ∀ n, motive n
  | .mk (.classRef _) _ => step _ (by intro m h; cases h)
  | .mk (.property _ receiver _) _ => step _ (by
      intro m h
      cases h
      exact induction step receiver)
  | .mk (.methodCall _ receiver _) _ => step _ (by
      intro m h
      cases h
      exact induction step receiver)
  | .mk (.call callee) _ => step _ (by
      intro m h
      cases h
      exact induction step callee)
  | .mk (.classConstant receiver _) _ => step _ (by
      intro m h
      cases h
      exact induction step receiver)
  | .mk (.constantRef _) _ => step _ (by intro m h; cases h)
  | .mk (.variable _) _ => step _ (by intro m h; cases h)
  | .mk .other _ => step _ (by intro m h; cases h)

end Node

end GotoDefinition
