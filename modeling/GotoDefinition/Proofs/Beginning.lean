import GotoDefinition.Proofs.Receiver

/-!
# GotoDefinition.Proofs.Beginning

Where a node looks into its surroundings.

A chain of members and calls begins with one node, and this node alone reads the context: a name
stands for a class, or for a function when it is called, and a constant or a variable is looked up.
Everything behind it rests on its type. So contexts in which the first node stands for the same
(`BeginsAlike`) answer every question about the chain alike, failures included.

* `BeginsAlike.typeOf`, `BeginsAlike.targets` — the type of the chain, and what it refers to.
* `BeginsAlike.answeredAlike` — the answers of all oracles.
-/

namespace GotoDefinition

/-! ## The first node of a chain -/

/-- The node that a chain of members and calls begins with. -/
def Node.first : Node → Node
  | .mk (.property _ receiver _) _ => receiver.first
  | .mk (.methodCall _ receiver _) _ => receiver.first
  | .mk (.call callee) _ => callee.first
  | .mk (.classConstant receiver _) _ => receiver.first
  | .mk (.classRef name) r => .mk (.classRef name) r
  | .mk (.constantRef name) r => .mk (.constantRef name) r
  | .mk (.variable name) r => .mk (.variable name) r
  | .mk .other r => .mk .other r

theorem Node.first_inner {m n : Node} (h : n.inner? = some m) : n.first = m.first := by
  obtain ⟨shape, range⟩ := n
  cases shape <;> cases h <;> rfl

theorem Node.first_of_inner_none {n : Node} (h : n.inner? = none) : n.first = n := by
  obtain ⟨shape, range⟩ := n
  cases shape <;> cases h <;> rfl

namespace CodeBase

variable {cb : CodeBase} {ctx ctx' : Context} {n : Node}

/-- Contexts in which the first node of a chain stands for the same. -/
structure BeginsAlike (cb : CodeBase) (n : Node) (ctx ctx' : Context) : Prop where
  type : ∀ name, n.first.shape = .classRef name → cb.namedType ctx name = cb.namedType ctx' name
  function : ∀ name, n.first.shape = .classRef name →
    cb.namedFunction ctx name = cb.namedFunction ctx' name
  constant : ∀ name, n.first.shape = .constantRef name →
    cb.namedConstant ctx name = cb.namedConstant ctx' name
  lookup : ∀ name, n.first.shape = .variable (.literal name) →
    ctx.findVariable? name = ctx'.findVariable? name

namespace BeginsAlike

/-- A chain begins like its receiver or callee. -/
theorem inner {m : Node} (h : cb.BeginsAlike n ctx ctx') (hinner : n.inner? = some m) :
    cb.BeginsAlike m ctx ctx' := by
  obtain ⟨htype, hfunction, hconstant, hlookup⟩ := h
  rw [Node.first_inner hinner] at htype hfunction hconstant hlookup
  exact ⟨htype, hfunction, hconstant, hlookup⟩

/-! ## Types -/

/-- A callee that is a name is the first node; any other one is called through its value. -/
theorem functionsOf (h : cb.BeginsAlike n ctx ctx') (htype : cb.typeOf ctx n = cb.typeOf ctx' n) :
    cb.functionsOf ctx n (cb.typeOf ctx n) = cb.functionsOf ctx' n (cb.typeOf ctx' n) := by
  by_cases hname : ∃ name, n.shape = .classRef name
  · obtain ⟨name, hname⟩ := hname
    obtain ⟨shape, range⟩ := n
    cases hname
    simp only [CodeBase.functionsOf, Node.shape, h.function name rfl]
  · have hvalue : ∀ name, n.shape ≠ .classRef name := fun name hn => hname ⟨name, hn⟩
    rw [functionsOf_value hvalue, functionsOf_value hvalue, htype]

theorem typeOf (h : cb.BeginsAlike n ctx ctx') : cb.typeOf ctx n = cb.typeOf ctx' n := by
  induction n using Node.induction with
  | step n ih =>
    have hinner : ∀ m, n.inner? = some m → cb.typeOf ctx m = cb.typeOf ctx' m :=
      fun m hm => ih m hm (h.inner hm)
    obtain ⟨shape, r⟩ := n
    cases shape with
    | classRef name => rw [CodeBase.typeOf, CodeBase.typeOf, h.type name rfl]
    | property isStatic receiver name =>
      rw [typeOf_property, typeOf_property, hinner receiver rfl]
    | methodCall isStatic receiver name =>
      cases name with
      | computed m => rfl
      | literal name => rw [typeOf_methodCall, typeOf_methodCall, hinner receiver rfl]
    | call callee =>
      have hcallee : cb.BeginsAlike callee ctx ctx' := h.inner rfl
      rw [CodeBase.typeOf, CodeBase.typeOf, hcallee.functionsOf (hinner callee rfl)]
    | classConstant receiver name =>
      cases name with
      | computed m => rfl
      | literal name => rw [typeOf_classConstant, typeOf_classConstant, hinner receiver rfl]
    | constantRef name => rw [CodeBase.typeOf, CodeBase.typeOf, h.constant name rfl]
    | «variable» name =>
      cases name with
      | computed m => rfl
      | literal name =>
        simp only [CodeBase.typeOf, variableType, NameSlot.literal?, h.lookup name rfl]
    | other => rfl

/-! ## What nodes refer to -/

theorem targets (h : cb.BeginsAlike n ctx ctx') (t : Toggles) (mode : Mode) :
    (cb.resolver t).targets mode ctx n = (cb.resolver t).targets mode ctx' n := by
  have hinner : ∀ m, n.inner? = some m → cb.typeOf ctx m = cb.typeOf ctx' m :=
    fun m hm => (h.inner hm).typeOf
  obtain ⟨shape, r⟩ := n
  cases shape with
  | classRef name => rw [targets_classRef, targets_classRef, h.typeOf]
  | property isStatic receiver name =>
    rw [targets_property, targets_property, hinner receiver rfl]
  | methodCall isStatic receiver name =>
    cases name with
    | computed m => rfl
    | literal name => rw [targets_methodCall, targets_methodCall, hinner receiver rfl]
  | call callee =>
    have hcallee : cb.BeginsAlike callee ctx ctx' := h.inner rfl
    rw [targets_call, targets_call, hcallee.functionsOf (hinner callee rfl)]
  | classConstant receiver name =>
    cases name with
    | computed m => rfl
    | literal name => rw [targets_classConstant, targets_classConstant, hinner receiver rfl]
  | constantRef name => rw [targets_constantRef, targets_constantRef, h.constant name rfl]
  | «variable» name =>
    cases name with
    | computed m => rfl
    | literal name =>
      simp only [Resolver.targets, Node.shape, Resolver.variableTargets, NameSlot.literal?,
        h.lookup name rfl]
  | other => rfl

theorem resolve (h : cb.BeginsAlike n ctx ctx') (t : Toggles) (req : Request) :
    (cb.resolver t).resolve ctx n req = (cb.resolver t).resolve ctx' n req := by
  rw [Resolver.resolve, Resolver.resolve, Resolver.records, Resolver.records, h.targets]

/-! ## Members and symbols -/

theorem propertyAt (h : cb.BeginsAlike n ctx ctx') (isStatic : Bool) :
    cb.propertyAt ctx n isStatic = cb.propertyAt ctx' n isStatic := by
  obtain ⟨shape, r⟩ := n
  cases shape with
  | property nodeStatic receiver name =>
    have hreceiver : cb.BeginsAlike receiver ctx ctx' := h.inner rfl
    simp only [CodeBase.propertyAt, Node.shape, hreceiver.typeOf]
  | _ => rfl

theorem methodAt (h : cb.BeginsAlike n ctx ctx') (name : String) (isStatic : Bool) :
    cb.methodAt ctx n name isStatic = cb.methodAt ctx' n name isStatic := by
  obtain ⟨shape, r⟩ := n
  cases shape with
  | methodCall nodeStatic receiver method =>
    have hreceiver : cb.BeginsAlike receiver ctx ctx' := h.inner rfl
    simp only [CodeBase.methodAt, Node.shape, hreceiver.typeOf]
  | _ => rfl

theorem classConstantAt (h : cb.BeginsAlike n ctx ctx') :
    cb.classConstantAt ctx n = cb.classConstantAt ctx' n := by
  obtain ⟨shape, r⟩ := n
  cases shape with
  | classConstant receiver name =>
    have hreceiver : cb.BeginsAlike receiver ctx ctx' := h.inner rfl
    simp only [CodeBase.classConstantAt, Node.shape, hreceiver.typeOf]
  | _ => rfl

theorem constantAt (h : cb.BeginsAlike n ctx ctx') :
    cb.constantAt ctx n = cb.constantAt ctx' n := by
  obtain ⟨shape, r⟩ := n
  cases shape with
  | constantRef name => simp only [CodeBase.constantAt, Node.shape, h.constant name rfl]
  | _ => rfl

end BeginsAlike

/-! ## All oracles -/

/-- In both contexts a node has the same type, every question about it the same answer, failures
included, and it adds the same to a request. -/
structure AnsweredAlike (cb : CodeBase) (n : Node) (ctx ctx' : Context) : Prop where
  type : cb.typeOf ctx n = cb.typeOf ctx' n
  property : ∀ isStatic, cb.members.property ctx n isStatic = cb.members.property ctx' n isStatic
  method : ∀ name isStatic,
    cb.members.method ctx n name isStatic = cb.members.method ctx' n name isStatic
  classConstant : cb.members.classConstant ctx n = cb.members.classConstant ctx' n
  constant : cb.members.constant ctx n = cb.members.constant ctx' n
  functions : cb.members.functions ctx n = cb.members.functions ctx' n
  resolve : ∀ t req, (cb.resolver t).resolve ctx n req = (cb.resolver t).resolve ctx' n req

theorem BeginsAlike.answeredAlike (h : cb.BeginsAlike n ctx ctx') :
    cb.AnsweredAlike n ctx ctx' where
  type := h.typeOf
  property := h.propertyAt
  method := h.methodAt
  classConstant := h.classConstantAt
  constant := h.constantAt
  functions := h.functionsOf h.typeOf
  resolve := h.resolve

end CodeBase

end GotoDefinition
