import GotoDefinition.Proofs.Spelling.Names

/-!
# GotoDefinition.Proofs.Spelling.Nodes

The spelling of names decides nothing about what a node refers to.

A node is `Respelled` as another one when names of classes, functions and methods change in the case
of their letters, names of properties and variables in the `$`s in front of them, and `class` in
case. Names of constants stay.

* `sameMeaning_of_respelled` — the same type up to the case of names, and the same declarations.
* `resolve_respelled` — a request is given the same records.
-/

namespace GotoDefinition

mutual

/-- Two nodes that differ in the spelling of their names and in where they stand. -/
inductive Node.Respelled : Node → Node → Prop where
  | mk {s t : Shape} (h : s.Respelled t) (r q : Range) : Node.Respelled (.mk s r) (.mk t q)

inductive Shape.Respelled : Shape → Shape → Prop where
  | classRef {a b : String} (h : SameLetters a b) : Shape.Respelled (.classRef a) (.classRef b)
  | property (isStatic : Bool) {m n : Node} {a b : NameSlot} (hreceiver : m.Respelled n)
      (hname : a.Respelled SameBare b) :
      Shape.Respelled (.property isStatic m a) (.property isStatic n b)
  | methodCall (isStatic : Bool) {m n : Node} {a b : NameSlot} (hreceiver : m.Respelled n)
      (hname : a.Respelled SameLetters b) :
      Shape.Respelled (.methodCall isStatic m a) (.methodCall isStatic n b)
  | call {m n : Node} (hcallee : m.Respelled n) : Shape.Respelled (.call m) (.call n)
  | classConstant {m n : Node} {a b : NameSlot} (hreceiver : m.Respelled n)
      (hname : a.Respelled SameConstant b) :
      Shape.Respelled (.classConstant m a) (.classConstant n b)
  | constantRef (name : String) : Shape.Respelled (.constantRef name) (.constantRef name)
  | variable {a b : NameSlot} (hname : a.Respelled SameBare b) :
      Shape.Respelled (.variable a) (.variable b)
  | other : Shape.Respelled .other .other

/-- Names that are written out are related by `R`; nodes that compute them are respelled. -/
inductive NameSlot.Respelled : NameSlot → (String → String → Prop) → NameSlot → Prop where
  | literal {R : String → String → Prop} {a b : String} (h : R a b) :
      NameSlot.Respelled (.literal a) R (.literal b)
  | computed {R : String → String → Prop} {m n : Node} (h : m.Respelled n) :
      NameSlot.Respelled (.computed m) R (.computed n)

end

/-- Nothing depends on how a name is computed. -/
theorem NameSlot.Respelled.sameSlot {R : String → String → Prop} {a b : NameSlot}
    (h : a.Respelled R b) : SameSlot R a b := by
  cases h with
  | literal h => exact .literal h
  | @computed _ m n h => exact .computed m n

namespace CodeBase

variable {cb : CodeBase} {ctx : Context} {m n : Node} {a b : NameSlot}

/-- Nodes that have the same type up to the case of names and refer to the same declarations, or
that have neither. -/
structure SameMeaning (cb : CodeBase) (ctx : Context) (m n : Node) : Prop where
  type : SameType (cb.typeOf ctx m) (cb.typeOf ctx n)
  targets (t : Toggles) (mode : Mode) :
    SameOutcome Eq ((cb.resolver t).targets mode ctx m) ((cb.resolver t).targets mode ctx n)

theorem Interchangeable.sameMeaning (h : cb.Interchangeable ctx m n) : cb.SameMeaning ctx m n :=
  ⟨h.type.sameType, h.targets⟩

/-! ## Shape by shape -/

theorem sameMeaning_classRef (hapart : ctx.imports.Apart) {a b : String} (h : SameLetters a b)
    (r q : Range) : cb.SameMeaning ctx (.mk (.classRef a) r) (.mk (.classRef b) q) := by
  have htype : SameType (cb.typeOf ctx (.mk (.classRef a) r))
      (cb.typeOf ctx (.mk (.classRef b) q)) := by
    rw [typeOf, typeOf]
    have hnamed := cb.namedType_congr hapart h
    generalize cb.namedType ctx a = x at hnamed ⊢
    generalize cb.namedType ctx b = y at hnamed ⊢
    cases hnamed with
    | error e f => exact .error e f
    | ok h => exact .ok (UnionType.same_iff_forall₂.mpr (.cons h .nil))
  refine ⟨htype, fun t mode => ?_⟩
  rw [targets_classRef, targets_classRef]
  exact htype.map fun _ _ huv => classRecords_congr huv t

theorem sameMeaning_variable (h : SameSlot SameBare a b) (r q : Range) :
    cb.SameMeaning ctx (.mk (.variable a) r) (.mk (.variable b) q) := by
  cases h with
  | computed k l =>
    refine ⟨.error _ _, fun t mode => ?_⟩
    cases mode with
    | definition => exact .ok rfl
    | typeDefinition => exact .error _ _
  | literal h =>
    have hfound := ctx.findVariable?_congr h
    constructor
    · simp only [typeOf, variableType, NameSlot.literal?, hfound]
      split
      · exact .error _ _
      · exact .ok (.refl _)
    · intro t mode
      cases mode with
      | definition => exact .ok rfl
      | typeDefinition =>
        simp only [Resolver.targets, Node.shape, Resolver.variableTargets, NameSlot.literal?,
          hfound]
        split
        · exact .error _ _
        · exact .ok rfl

theorem interchangeable_constantRef (name : String) (r q : Range) :
    cb.Interchangeable ctx (.mk (.constantRef name) r) (.mk (.constantRef name) q) where
  type := by
    rw [typeOf, typeOf]
    exact .refl (fun _ => rfl) _
  targets t mode := by
    rw [targets_constantRef, targets_constantRef]
    exact .refl (fun _ => rfl) _

/-- A callee that is a name is respelled as a name, and both are the same function. -/
theorem functionsOf_respelled (hapart : ctx.imports.Apart) (h : m.Respelled n)
    (htype : SameType (cb.typeOf ctx m) (cb.typeOf ctx n)) :
    List.Forall₂ (SameOutcome Eq) (cb.functionsOf ctx m (cb.typeOf ctx m))
      (cb.functionsOf ctx n (cb.typeOf ctx n)) := by
  cases h with
  | mk hshape r q =>
    cases hshape with
    | classRef hname => exact .cons (namedFunction_congr hapart hname) .nil
    | property _ _ _ => exact functionsOf_congr nofun nofun htype
    | methodCall _ _ _ => exact functionsOf_congr nofun nofun htype
    | call _ => exact functionsOf_congr nofun nofun htype
    | classConstant _ _ => exact functionsOf_congr nofun nofun htype
    | constantRef _ => exact functionsOf_congr nofun nofun htype
    | «variable» _ => exact functionsOf_congr nofun nofun htype
    | other => exact functionsOf_congr nofun nofun htype

/-! ## Whole trees -/

theorem sameMeaning_of_respelled (hapart : ctx.imports.Apart) (h : m.Respelled n) :
    cb.SameMeaning ctx m n := by
  -- Along receivers and callees alone: nodes that compute a name are related but never looked at.
  induction m using Node.induction generalizing n with
  | step m ih =>
    cases h with
    | mk hshape r q =>
      cases hshape with
      | classRef hname => exact sameMeaning_classRef hapart hname r q
      | property isStatic hreceiver hname =>
        have htype := (ih _ rfl hreceiver).type
        exact (interchangeable_property htype hname.sameSlot isStatic r q).sameMeaning
      | methodCall isStatic hreceiver hname =>
        have htype := (ih _ rfl hreceiver).type
        exact (interchangeable_methodCall htype hname.sameSlot isStatic r q).sameMeaning
      | call hcallee =>
        have hfunctions := functionsOf_respelled hapart hcallee (ih _ rfl hcallee).type
        exact (interchangeable_call hfunctions r q).sameMeaning
      | classConstant hreceiver hname =>
        have htype := (ih _ rfl hreceiver).type
        exact (interchangeable_classConstant htype hname.sameSlot r q).sameMeaning
      | constantRef name => exact (interchangeable_constantRef name r q).sameMeaning
      | «variable» hname => exact sameMeaning_variable hname.sameSlot r q
      | other => exact ⟨.ok (.refl _), fun t mode => .ok rfl⟩

/-- Where no two aliases differ in case alone, respelling a node changes nothing about the records
that a request is given. These carry the spelling of the declarations, not that of the node. -/
theorem resolve_respelled (cb : CodeBase) (ctx : Context) (hapart : ctx.imports.Apart)
    {m n : Node} (h : m.Respelled n) (t : Toggles) (req : Request) :
    (cb.resolver t).resolve ctx m req = (cb.resolver t).resolve ctx n req :=
  resolve_congr ((sameMeaning_of_respelled hapart h).targets t) req

/-! ## A member of an imported class -/

namespace Shop

def sources : Url :=
  ⟨"file:///src/shop.php"⟩

def cartType : UnionType :=
  UnionType.ofList [.instanceOf (Name.ofText "Shop\\Cart")]

/-- `static Cart $current` of a cart. -/
def current : PropertyEntry :=
  ⟨"current", 6, true, cartType⟩

/-- `function total(): int` of a cart. -/
def total : MethodEntry :=
  ⟨"total", 9, false, UnionType.ofList [.native .int]⟩

def cart : ClassEntry :=
  ⟨Name.ofText "Shop\\Cart", .ordinary, sources, 4, none, [], [], [current], [total], []⟩

def codeBase : CodeBase :=
  ofSnapshot ⟨[cart], [], []⟩

/-- `use Shop\Cart as C; use Web\Http as H;` -/
def context : Context :=
  (Context.empty.withImport "C" "Shop\\Cart").withImport "H" "Web\\Http"

/-- `className::$property->method()` -/
def chain (className property method : String) : Node :=
  Node.methodCall (Node.staticProperty (Node.classRef className) (.literal property))
    (.literal method)

theorem findClass?_cart : codeBase.findClass? (Name.ofText "Shop\\Cart") = some cart := by
  decide +kernel

/-- The chain in the spelling of the declarations is followed from the inside. -/
theorem methodOf_chain :
    codeBase.methodOf (Node.staticProperty (Node.classRef "C") (.literal "current"))
      (codeBase.typeOf context (Node.staticProperty (Node.classRef "C") (.literal "current")))
      "total" =
      .ok ⟨⟨cart.name, "total"⟩, false, UnionType.ofList [.native .int],
        Location.atLine sources 9⟩ := by
  have hclass : codeBase.typeOf context (Node.classRef "C") = .ok cartType :=
    eq_ok_of_toOption (by decide +kernel)
  have hproperty : codeBase.propertyOf (Node.classRef "C") (.ok cartType) (.literal "current")
      true = .ok ⟨⟨cart.name, "current"⟩, true, cartType, Location.atLine sources 6⟩ :=
    propertyOf_instance findClass?_cart (by decide +kernel) _
  have htype : codeBase.typeOf context
      (Node.staticProperty (Node.classRef "C") (.literal "current")) = .ok cartType := by
    rw [Node.staticProperty, Node.ofShape, typeOf_property, hclass, hproperty]
    rfl
  rw [htype]
  exact methodOf_instance findClass?_cart (by decide +kernel) _

end Shop

open Shop in
/-- `c::$$current->TOTAL()` is the method `total` of the cart. -/
theorem resolve_respelled_shop :
    context.imports.Apart ∧
    (chain "c" "$current" "TOTAL").Respelled (chain "C" "current" "total") ∧
    ((codeBase.resolver Toggles.all).resolve context (chain "c" "$current" "TOTAL")
        (Request.start .definition)).records =
      [.declaration (.method ⟨⟨cart.name, "total"⟩, false, UnionType.ofList [.native .int],
        Location.atLine sources 9⟩) true] := by
  have hapart : context.imports.Apart := by
    unfold Imports.Apart
    decide +kernel
  have halias : SameLetters "c" "C" := by
    unfold SameLetters
    decide +kernel
  have hmethod : SameLetters "TOTAL" "total" := by
    unfold SameLetters
    decide +kernel
  have hproperty : SameBare "$current" "current" := by
    unfold SameBare
    decide +kernel
  have hrespelled : (chain "c" "$current" "TOTAL").Respelled (chain "C" "current" "total") := by
    refine .mk (.methodCall false (.mk ?_ _ _) (.literal hmethod)) _ _
    exact .property true (.mk (.classRef halias) _ _) (.literal hproperty)
  have htargets : (codeBase.resolver Toggles.all).targets .definition context
      (chain "C" "current" "total") =
      .ok [.declaration (.method ⟨⟨cart.name, "total"⟩, false, UnionType.ofList [.native .int],
        Location.atLine sources 9⟩) true] := by
    rw [chain, Node.methodCall, Node.ofShape, targets_methodCall, methodOf_chain]
    rfl
  refine ⟨hapart, hrespelled, ?_⟩
  rw [resolve_respelled codeBase context hapart hrespelled]
  exact (Resolver.contribution_eq_records _ .definition (context, _)).trans
    (Resolver.records_of_targets rfl htargets)

end CodeBase

end GotoDefinition
