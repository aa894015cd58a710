import GotoDefinition.Proofs.Rendering
import GotoDefinition.Proofs.Targets

/-!
# GotoDefinition.Proofs.TypeDefinition

A request for the definition of a type is answered with the classes of the inferred type.

The resolver and the inference go through a node each in its own way. `Agree` relates what they
come to: the same failure, or records shown as the locations of the type. It is proved for each way
of resolving a node. For calls the inference merges the types that the functions return, while the
request shows the types one after the other; both keep a location where it first occurs.

* `typeLocations_merge` — merging types is joining their locations.
* `agree_targets` — the two agree on every node that does not name a constant.
* `locations_eq_classes_of_type` — the locations of an answered request.
-/

namespace GotoDefinition

/-- Constants are not followed to a class: their types are not known. -/
def Shape.isConstant : Shape → Bool
  | .classConstant _ _ => true
  | .constantRef _ => true
  | _ => false

namespace CodeBase

variable {cb : CodeBase}

/-! ## Locations of a type -/

theorem typeLocations_index (cb : CodeBase) (u : UnionType) :
    cb.index.typeLocations u =
      (u.classes.filterMap cb.findClass?).map fun e => Location.atLine e.file e.line := by
  have hfind : cb.index.findClass? = fun c => (cb.findClass? c).map ClassEntry.decl := rfl
  rw [SymbolIndex.typeLocations, hfind, ← List.map_filterMap, List.map_map]
  rfl

theorem locationsOf_congr {s t : Ty} (h : s.same t = true) :
    cb.index.locationsOf s = cb.index.locationsOf t := by
  cases s <;> cases t <;> simp only [Ty.same] at h <;> try cases h
  · rfl
  · rename_i c d
    have hfind : cb.findClass? c = cb.findClass? d := findClass?_congr (Name.same_iff.mp h)
    simp only [SymbolIndex.locationsOf, index, hfind]
  · rfl

theorem typeLocations_add (u : UnionType) (t : Ty) :
    firstOccurrences (cb.index.typeLocations (u.add t)) =
      firstOccurrences (cb.index.typeLocations u ++ cb.index.locationsOf t) := by
  rw [typeLocations_eq_flatMap, typeLocations_eq_flatMap, UnionType.types_add]
  split
  · rename_i hhas
    obtain ⟨s, hs, hsame⟩ := UnionType.has_iff.mp hhas
    rw [firstOccurrences_append_of_subset]
    intro l hl
    rw [locationsOf_congr hsame] at hl
    exact List.mem_flatMap.mpr ⟨s, hs, hl⟩
  · rw [List.flatMap_append, List.flatMap_singleton]

theorem typeLocations_addAll (u : UnionType) (ts : List Ty) :
    firstOccurrences (cb.index.typeLocations (u.addAll ts)) =
      firstOccurrences (cb.index.typeLocations u ++ ts.flatMap cb.index.locationsOf) := by
  induction ts generalizing u with
  | nil => rw [List.flatMap_nil, List.append_nil, UnionType.addAll, List.foldl_nil]
  | cons t ts ih =>
    rw [UnionType.addAll, List.foldl_cons, ← UnionType.addAll, ih, List.flatMap_cons,
      ← List.append_assoc]
    exact firstOccurrences_append_congr (typeLocations_add u t) _

theorem typeLocations_merge (u v : UnionType) :
    firstOccurrences (cb.index.typeLocations (u.merge v)) =
      firstOccurrences (cb.index.typeLocations u ++ cb.index.typeLocations v) := by
  rw [UnionType.merge, typeLocations_addAll, typeLocations_eq_flatMap cb.index v]

/-! ## Agreement -/

/-- What a request for the definition of a type comes to, and what the inference comes to. -/
inductive Agree (cb : CodeBase) :
    Except LookupError (List Record) → Except LookupError UnionType → Prop where
  | found {records : List Record} {u : UnionType}
      (h : firstOccurrences (records.flatMap (Record.locations cb.index .typeDefinition)) =
        firstOccurrences (cb.index.typeLocations u)) :
      Agree cb (.ok records) (.ok u)
  | failed (e : LookupError) : Agree cb (.error e) (.error e)

theorem Agree.found_of_ok {found : Except LookupError (List Record)} {u : UnionType}
    (h : cb.Agree found (.ok u)) :
    ∃ records, found = .ok records ∧
      firstOccurrences (records.flatMap (Record.locations cb.index .typeDefinition)) =
        firstOccurrences (cb.index.typeLocations u) := by
  cases h with
  | found h => exact ⟨_, rfl, h⟩

theorem Agree.failed_of_error {found : Except LookupError (List Record)} {e : LookupError}
    (h : cb.Agree found (.error e)) : found = .error e := by
  cases h with
  | failed e => rfl

/-- The classes that are shown are those of the index, whether or not it is asked first. -/
theorem locations_of_classes (cb : CodeBase) (cs : List ClassName) :
    (((cs.filter cb.hasClass).filterMap cb.index.findClass?).map fun d =>
      Record.declaration (.classLike d) false).flatMap (Record.locations cb.index .typeDefinition) =
      (cs.filterMap cb.index.findClass?).map ClassDecl.location := by
  induction cs with
  | nil => rfl
  | cons c cs ih =>
    have hindex : cb.index.findClass? c = (cb.findClass? c).map ClassEntry.decl := rfl
    have hhas : cb.hasClass c = (cb.findClass? c).isSome := rfl
    rw [List.filter_cons, List.filterMap_cons, hindex, hhas]
    cases hfind : cb.findClass? c with
    | none => exact ih
    | some e =>
      rw [hfind] at hindex
      rw [Option.isSome_some, if_pos rfl, List.filterMap_cons, hindex]
      exact congrArg (e.decl.location :: ·) ih

theorem agree_class (t : Toggles) (ctx : Context) (n : Node) :
    cb.Agree ((cb.resolver t).classTargets ctx n) (cb.typeOf ctx n) := by
  have htype : (cb.resolver t).types.typeOf ctx n = cb.typeOf ctx n := rfl
  rw [Resolver.classTargets, htype]
  cases cb.typeOf ctx n with
  | error e => exact .failed e
  | ok u => exact .found (congrArg firstOccurrences (locations_of_classes cb u.classes))

/-- A declaration with a type is shown as the classes of its type. -/
theorem agree_declaration {d : Declaration} {u : UnionType} (h : d.declaredType? = some u) :
    cb.Agree (.ok [.declaration d true]) (.ok u) := by
  refine .found ?_
  rw [List.flatMap_singleton, Record.locations, Declaration.followed?, h]
  rfl

theorem agree_property (t : Toggles) (ctx : Context) (isStatic : Bool) (receiver : Node)
    (name : NameSlot) (r : Range) :
    cb.Agree
      ((cb.resolver t).propertyTargets ctx (.mk (.property isStatic receiver name) r) isStatic)
      (cb.typeOf ctx (.mk (.property isStatic receiver name) r)) := by
  have hasked : (cb.resolver t).members.property ctx (.mk (.property isStatic receiver name) r)
      isStatic = cb.propertyOf receiver (cb.typeOf ctx receiver) name isStatic := if_pos rfl
  rw [Resolver.propertyTargets, hasked, typeOf]
  cases cb.propertyOf receiver (cb.typeOf ctx receiver) name isStatic with
  | error e => exact .failed e
  | ok d => exact agree_declaration rfl

theorem agree_method (t : Toggles) (ctx : Context) (isStatic : Bool) (receiver : Node)
    (name : NameSlot) (r : Range) :
    cb.Agree
      ((cb.resolver t).methodTargets ctx (.mk (.methodCall isStatic receiver name) r) isStatic name)
      (cb.typeOf ctx (.mk (.methodCall isStatic receiver name) r)) := by
  rw [Resolver.methodTargets, typeOf]
  cases name.literal? with
  | none => exact .failed _
  | some text =>
    have hasked : (cb.resolver t).members.method ctx (.mk (.methodCall isStatic receiver name) r)
        text isStatic = cb.methodOf receiver (cb.typeOf ctx receiver) text := if_pos rfl
    simp only [hasked]
    cases cb.methodOf receiver (cb.typeOf ctx receiver) text with
    | error e => exact .failed e
    | ok d => exact agree_declaration rfl

theorem agree_variable (ctx : Context) (name : NameSlot) :
    cb.Agree (Resolver.variableTargets .typeDefinition ctx name) (variableType ctx name) := by
  rw [Resolver.variableTargets, variableType]
  cases name.literal? with
  | none => exact .failed _
  | some text =>
    dsimp only
    cases ctx.findVariable? text with
    | none => exact .failed _
    | some v =>
      refine .found ?_
      rw [List.flatMap_singleton]
      rfl

/-! ## Calls -/

/-- What the functions return together has the locations of the types one after the other. -/
theorem typeLocations_returned (u : UnionType) (ds : List FunctionDecl) :
    firstOccurrences (cb.index.typeLocations (returned u ds)) =
      firstOccurrences (cb.index.typeLocations u ++
        ds.flatMap fun d => cb.index.typeLocations d.returns) := by
  induction ds generalizing u with
  | nil => rw [List.flatMap_nil, List.append_nil, returned, List.foldl_nil]
  | cons d ds ih =>
    rw [returned, List.foldl_cons, ← returned, ih, List.flatMap_cons, ← List.append_assoc]
    exact firstOccurrences_append_congr (typeLocations_merge u d.returns) _

theorem agree_call (t : Toggles) (ctx : Context) (callee : Node) (r : Range) :
    cb.Agree ((cb.resolver t).callTargets ctx callee) (cb.typeOf ctx (.mk (.call callee) r)) := by
  have hasked : (cb.resolver t).members.functions ctx callee =
      cb.functionsOf ctx callee (cb.typeOf ctx callee) := rfl
  rw [Resolver.callTargets, hasked, typeOf_call]
  cases allOrFirstError (cb.functionsOf ctx callee (cb.typeOf ctx callee)) with
  | error e => exact .failed e
  | ok ds =>
    refine .found ?_
    rw [typeLocations_returned, List.flatMap_map]
    rfl

/-! ## A small project -/

namespace Factory

def sources : Url :=
  ⟨"file:///src/factory.php"⟩

def classNamed (name : String) (line : UInt32) : ClassEntry :=
  ⟨Name.ofText name, .ordinary, sources, line, none, [], [], [], [], []⟩

def functionNamed (name : String) (line : UInt32) (returns : List String) : FunctionEntry :=
  ⟨Name.ofText name, sources, line, UnionType.ofList (returns.map (.instanceOf ∘ Name.ofText))⟩

/-- `Invoice` and `Draft` are declared on one line, `Ghost` nowhere. -/
def codeBase : CodeBase :=
  ofSnapshot
    ⟨[classNamed "Order" 3, classNamed "Invoice" 8, classNamed "Draft" 8],
     [functionNamed "open" 20 ["Invoice", "Ghost"],
      functionNamed "close" 30 ["INVOICE", "Order", "Draft"]],
     []⟩

/-- The variable `$make` holds one of the two functions. -/
def context : Context :=
  Context.empty.withVariable
    (.named "make" (UnionType.ofList (["open", "close"].map (.closure ∘ Name.ofText))))

/-- `$make()` -/
def made : Node :=
  .mk (.call (.mk (.variable (.literal "make")) Range.zero)) Range.zero

def madeType : UnionType :=
  UnionType.ofList (["Invoice", "Ghost", "Order", "Draft"].map (.instanceOf ∘ Name.ofText))

end Factory

/-! ## Answered requests -/

/-- What a node is resolved to is shown as its type, unless the node names a constant. -/
theorem agree_targets (t : Toggles) (ctx : Context) (n : Node) (h : n.shape.isConstant = false) :
    cb.Agree ((cb.resolver t).targets .typeDefinition ctx n) (cb.typeOf ctx n) := by
  obtain ⟨shape, r⟩ := n
  cases shape with
  | classRef name => exact agree_class t ctx _
  | property isStatic receiver name => exact agree_property t ctx isStatic receiver name r
  | methodCall isStatic receiver name => exact agree_method t ctx isStatic receiver name r
  | call callee => exact agree_call t ctx callee r
  | classConstant receiver name => cases h
  | constantRef name => cases h
  | «variable» name =>
    rw [typeOf]
    exact agree_variable ctx name
  | other =>
    rw [typeOf]
    exact .found rfl

/-- A request for the definition of a type is answered with the classes of the inferred type, each
location where it first occurs, and with nothing where no type is inferred. -/
theorem locations_eq_classes_of_type (cb : CodeBase) (ctx : Context) (n : Node)
    (h : n.shape.isConstant = false) :
    let req := (cb.resolver Toggles.all).resolve ctx n (Request.start .typeDefinition)
    (∀ u, cb.typeOf ctx n = .ok u →
      req.locations cb.index =
        ((u.classes.filterMap cb.findClass?).map fun e =>
          Location.atLine e.file e.line).eraseDups) ∧
    (∀ e, cb.typeOf ctx n = .error e →
      req.records = [] ∧ req.locations cb.index = []) := by
  intro req
  have hagree := cb.agree_targets Toggles.all ctx n h
  have hrecords : req.records = (cb.resolver Toggles.all).records .typeDefinition ctx n :=
    List.nil_append _
  have hlocations : req.locations cb.index =
      firstOccurrences (req.records.flatMap (Record.locations cb.index .typeDefinition)) := rfl
  have hallow : (cb.resolver Toggles.all).toggles.allow .typeDefinition = true := rfl
  rw [Resolver.records, hallow, if_pos rfl] at hrecords
  constructor
  · intro u hu
    rw [hu] at hagree
    obtain ⟨records, htargets, hshown⟩ := hagree.found_of_ok
    have hfound : req.records = records := by rw [hrecords, htargets]
    rw [hlocations, hfound, hshown, firstOccurrences_eq_eraseDups, typeLocations_index]
  · intro e he
    rw [he] at hagree
    have hnone : req.records = [] := by rw [hrecords, hagree.failed_of_error]
    refine ⟨hnone, ?_⟩
    rw [hlocations, hnone]
    rfl

open Factory in
/-- The first function gives `Invoice`, the second adds `Order`; `Draft` is shown with `Invoice`. -/
theorem locations_factory :
    made.shape.isConstant = false ∧ codeBase.typeOf context made = .ok madeType ∧
    ((codeBase.resolver Toggles.all).resolve context made
        (Request.start .typeDefinition)).locations codeBase.index =
      [Location.atLine sources 8, Location.atLine sources 3] := by
  have hsome : (codeBase.typeOf context made).toOption = some madeType := by decide +kernel
  have htype : codeBase.typeOf context made = .ok madeType := by
    cases hresult : codeBase.typeOf context made with
    | error e =>
      rw [hresult] at hsome
      cases hsome
    | ok u =>
      rw [hresult] at hsome
      exact congrArg Except.ok (Option.some.inj hsome)
  have hclasses : ((madeType.classes.filterMap codeBase.findClass?).map fun e =>
      Location.atLine e.file e.line).eraseDups =
      [Location.atLine sources 8, Location.atLine sources 3] := by decide +kernel
  have hlocations := (locations_eq_classes_of_type codeBase context made rfl).1 madeType htype
  rw [hclasses] at hlocations
  exact ⟨rfl, htype, hlocations⟩

end CodeBase

end GotoDefinition
