import GotoDefinition.Proofs.Hierarchy.Reachable
import GotoDefinition.Proofs.Targets
import GotoDefinition.Proofs.TypeDefinition

/-!
# GotoDefinition.Proofs.Provenance

Nothing that is reported is made up.

Whatever a code base is asked, behind a record stands an entry of its snapshot: the first one of its
name, for a member the first one of the name of the class that declares it. Only the variables are
those of the context. The file of a location is the file of that entry.

* `backed_of_targets` — what a node refers to is `Backed` by the snapshot or the context.
* `nothing_invented` — so is all that a request is given, and all that it is shown as is `Located`.
-/

namespace GotoDefinition

variable {α β : Type}

/-! ## First entries -/

/-- Among the items of its name the item comes first. -/
def FirstOfName {kind : NameKind} (name : α → Name kind) (items : List α) (a : α) : Prop :=
  items.find? (fun b => (name b).same (name a)) = some a

theorem firstOfName_of_find? {kind : NameKind} {name : α → Name kind} {items : List α}
    {k : String} {a : α}
    (h : (Index.ofList items : Index fun b => (name b).key).find? k = some a) :
    FirstOfName name items a := by
  have hkey := Index.key_of_find? h
  have hsame : (fun b => (name b).same (name a)) = fun b => (name b).key == k := by
    funext b
    rw [Bool.eq_iff_iff, Name.same_iff, beq_iff_eq, hkey]
  rw [Index.find?_ofList] at h
  rw [FirstOfName, hsame]
  exact h

/-! ## What stands behind records and locations -/

section

variable (s : Snapshot) (ctx : Context)

/-- What a record that is found for a node of a shape rests on: the first entry of its name, a
member of such an entry that the node names, or a variable of the context that the node names. -/
inductive Backed : Shape → Record → Prop where
  | classLike {shape : Shape} {e : ClassEntry} (he : FirstOfName ClassEntry.name s.classes e) :
      Backed shape
        (.declaration (.classLike ⟨e.name, e.kind, ⟨e.file, ⟨⟨e.line, 0⟩, ⟨e.line, 0⟩⟩⟩⟩) false)
  | function {callee : Node} {e : FunctionEntry}
      (he : FirstOfName FunctionEntry.name s.functions e) :
      Backed (.call callee)
        (.declaration (.function ⟨e.name, e.returns, ⟨e.file, ⟨⟨e.line, 0⟩, ⟨e.line, 0⟩⟩⟩⟩) true)
  | constant {name : String} {e : ConstantEntry}
      (he : FirstOfName ConstantEntry.name s.constants e) :
      Backed (.constantRef name)
        (.declaration (.constant ⟨e.name, ⟨e.file, ⟨⟨e.line, 0⟩, ⟨e.line, 0⟩⟩⟩⟩) false)
  | property {isStatic : Bool} {receiver : Node} {name : String} {e : ClassEntry}
      {p : PropertyEntry} (he : FirstOfName ClassEntry.name s.classes e) (hp : p ∈ e.properties)
      (hname : Text.stripLeading '$' p.name = Text.stripLeading '$' name)
      (hstatic : p.isStatic = isStatic) :
      Backed (.property isStatic receiver (.literal name))
        (.declaration (.property ⟨⟨e.name, Text.stripLeading '$' p.name⟩, p.isStatic, p.type,
          ⟨e.file, ⟨⟨p.line, 0⟩, ⟨p.line, 0⟩⟩⟩⟩) true)
  | method {isStatic : Bool} {receiver : Node} {name : String} {e : ClassEntry} {m : MethodEntry}
      (he : FirstOfName ClassEntry.name s.classes e) (hm : m ∈ e.methods)
      (hname : Text.alike m.name name = true) :
      Backed (.methodCall isStatic receiver (.literal name))
        (.declaration (.method ⟨⟨e.name, m.name⟩, m.isStatic, m.returns,
          ⟨e.file, ⟨⟨m.line, 0⟩, ⟨m.line, 0⟩⟩⟩⟩) true)
  | classConstant {receiver : Node} {name : String} {e : ClassEntry} {c : ClassConstantEntry}
      (he : FirstOfName ClassEntry.name s.classes e) (hc : c ∈ e.constants)
      (hname : c.name = name) :
      Backed (.classConstant receiver (.literal name))
        (.declaration (.classConstant ⟨⟨e.name, c.name⟩,
          ⟨e.file, ⟨⟨c.line, 0⟩, ⟨c.line, 0⟩⟩⟩⟩) false)
  | variable {name : String} {v : Variable} (hv : ctx.findVariable? name = some v) :
      Backed (.variable (.literal name)) (.variableType v)

/-- The start of the line of a first entry, or of the line of a member in the file of its class. -/
inductive Located : Location → Prop where
  | classLike {e : ClassEntry} (he : FirstOfName ClassEntry.name s.classes e) :
      Located ⟨e.file, ⟨⟨e.line, 0⟩, ⟨e.line, 0⟩⟩⟩
  | function {e : FunctionEntry} (he : FirstOfName FunctionEntry.name s.functions e) :
      Located ⟨e.file, ⟨⟨e.line, 0⟩, ⟨e.line, 0⟩⟩⟩
  | constant {e : ConstantEntry} (he : FirstOfName ConstantEntry.name s.constants e) :
      Located ⟨e.file, ⟨⟨e.line, 0⟩, ⟨e.line, 0⟩⟩⟩
  | property {e : ClassEntry} {p : PropertyEntry}
      (he : FirstOfName ClassEntry.name s.classes e) (hp : p ∈ e.properties) :
      Located ⟨e.file, ⟨⟨p.line, 0⟩, ⟨p.line, 0⟩⟩⟩
  | method {e : ClassEntry} {m : MethodEntry} (he : FirstOfName ClassEntry.name s.classes e)
      (hm : m ∈ e.methods) : Located ⟨e.file, ⟨⟨m.line, 0⟩, ⟨m.line, 0⟩⟩⟩
  | classConstant {e : ClassEntry} {c : ClassConstantEntry}
      (he : FirstOfName ClassEntry.name s.classes e) (hc : c ∈ e.constants) :
      Located ⟨e.file, ⟨⟨c.line, 0⟩, ⟨c.line, 0⟩⟩⟩

end

namespace CodeBase

variable {cb : CodeBase} {s : Snapshot} {ctx : Context} {mode : Mode}

/-! ## What is found in a snapshot -/

theorem first_of_findClass? {c : ClassName} {e : ClassEntry}
    (h : (ofSnapshot s).findClass? c = some e) : FirstOfName ClassEntry.name s.classes e :=
  firstOfName_of_find? h

theorem first_of_findFunction? {f : FunctionName} {d : FunctionDecl}
    (h : (ofSnapshot s).findFunction? f = some d) :
    ∃ e, FirstOfName FunctionEntry.name s.functions e ∧ e.decl = d := by
  obtain ⟨e, he, hdecl⟩ := Option.map_eq_some_iff.mp h
  exact ⟨e, firstOfName_of_find? he, hdecl⟩

theorem first_of_findConstant? {c : ConstantName} {d : ConstantDecl}
    (h : (ofSnapshot s).findConstant? c = some d) :
    ∃ e, FirstOfName ConstantEntry.name s.constants e ∧ e.decl = d := by
  obtain ⟨e, he, hdecl⟩ := Option.map_eq_some_iff.mp h
  exact ⟨e, firstOfName_of_find? he, hdecl⟩

/-- An inherited member is that of the class that declares it. -/
theorem first_of_findMember? {withInterfaces : Bool} {c : ClassName}
    {pick : ClassEntry → Option α} {a : α}
    (h : (ofSnapshot s).findMember? withInterfaces c pick = some a) :
    ∃ e, FirstOfName ClassEntry.name s.classes e ∧ pick e = some a := by
  obtain ⟨e, he, hpick⟩ := List.exists_of_findSome?_eq_some h
  exact ⟨e, first_of_findClass? (mem_lineage_iff.mp he).indexed, hpick⟩

/-! ## What lookups come from -/

theorem found_of_memberOf {receiver : Node} {type : Except LookupError UnionType}
    {describe : ClassName → String} {find : ClassName → Option α} {a : α}
    (h : cb.memberOf receiver type describe find = .ok a) : ∃ c, find c = some a := by
  rw [memberOf] at h
  split at h
  · cases h
  · rename_i cs _
    cases cs with
    | nil => cases h
    | cons c cs =>
      rw [firstMember] at h
      split at h
      · rename_i member hmember
        cases h
        obtain ⟨d, _, hd⟩ := List.exists_of_findSome?_eq_some hmember
        exact ⟨d, hd⟩
      · split at h <;> cases h

theorem found_of_namedFunction {name : String} {d : FunctionDecl}
    (h : cb.namedFunction ctx name = .ok d) : ∃ f, cb.findFunction? f = some d := by
  rw [namedFunction] at h
  split at h
  · rename_i found hfound
    cases h
    obtain ⟨text, _, htext⟩ := List.exists_of_findSome?_eq_some hfound
    exact ⟨_, htext⟩
  · cases h

theorem found_of_namedConstant {name : String} {d : ConstantDecl}
    (h : cb.namedConstant ctx name = .ok d) : ∃ c, cb.findConstant? c = some d := by
  rw [namedConstant] at h
  split at h
  · rename_i found hfound
    cases h
    obtain ⟨text, _, htext⟩ := List.exists_of_findSome?_eq_some hfound
    exact ⟨_, htext⟩
  · cases h

theorem found_of_mem_closureFunctions {type : Except LookupError UnionType} {d : FunctionDecl}
    (h : .ok d ∈ cb.closureFunctions type) : ∃ f, cb.findFunction? f = some d := by
  cases type with
  | error e => cases List.mem_singleton.mp h
  | ok u =>
    obtain ⟨f, _, hf⟩ := List.mem_map.mp h
    split at hf
    · rename_i found hfound
      cases hf
      exact ⟨f, hfound⟩
    · cases hf

theorem found_of_mem_functionsOf {callee : Node} {type : Except LookupError UnionType}
    {d : FunctionDecl} (h : .ok d ∈ cb.functionsOf ctx callee type) :
    ∃ f, cb.findFunction? f = some d := by
  rw [functionsOf] at h
  split at h
  · exact found_of_namedFunction (List.mem_singleton.mp h).symm
  · exact found_of_mem_closureFunctions h

/-! ## Records shape by shape -/

theorem backed_of_mem_classRecords {t : Toggles} {u : UnionType} {record : Record}
    (h : record ∈ ((ofSnapshot s).resolver t).classRecords u) (shape : Shape) :
    Backed s ctx shape record := by
  obtain ⟨d, hd, rfl⟩ := List.mem_map.mp h
  obtain ⟨c, _, hc⟩ := List.mem_filterMap.mp hd
  obtain ⟨e, he, rfl⟩ := Option.map_eq_some_iff.mp hc
  exact .classLike (first_of_findClass? he)

theorem backed_property {receiver : Node} {type : Except LookupError UnionType} {name : String}
    {isStatic : Bool} {d : PropertyDecl}
    (h : (ofSnapshot s).propertyOf receiver type (.literal name) isStatic = .ok d) :
    Backed s ctx (.property isStatic receiver (.literal name))
      (.declaration (.property d) true) := by
  obtain ⟨c, hc⟩ := found_of_memberOf h
  obtain ⟨e, he, hpick⟩ := first_of_findMember? hc
  obtain ⟨p, hp, rfl⟩ := Option.map_eq_some_iff.mp hpick
  have hfound := List.find?_some hp
  rw [Bool.and_eq_true, beq_iff_eq, beq_iff_eq] at hfound
  obtain ⟨hname, hstatic⟩ := hfound
  have hbacked : Backed s ctx (.property isStatic receiver (.literal name)) _ :=
    .property he (List.mem_of_find?_eq_some hp) hname hstatic
  -- The record takes the name from the node, where it is that of the entry but for the `$`s.
  rw [hname] at hbacked
  exact hbacked

theorem backed_method {receiver : Node} {type : Except LookupError UnionType} {name : String}
    {d : MethodDecl} (h : (ofSnapshot s).methodOf receiver type name = .ok d) (isStatic : Bool) :
    Backed s ctx (.methodCall isStatic receiver (.literal name))
      (.declaration (.method d) true) := by
  obtain ⟨c, hc⟩ := found_of_memberOf h
  obtain ⟨e, he, hpick⟩ := first_of_findMember? hc
  obtain ⟨m, hm, rfl⟩ := Option.map_eq_some_iff.mp hpick
  have hname := List.find?_some hm
  exact .method he (List.mem_of_find?_eq_some hm) hname

theorem backed_classConstant {receiver : Node} {type : Except LookupError UnionType}
    {name : String} {d : ClassConstantDecl}
    (h : (ofSnapshot s).classConstantOf receiver type (.literal name) = .ok d) :
    Backed s ctx (.classConstant receiver (.literal name))
      (.declaration (.classConstant d) false) := by
  obtain ⟨c, hc⟩ := found_of_memberOf h
  obtain ⟨e, he, hpick⟩ := first_of_findMember? hc
  obtain ⟨k, hk, rfl⟩ := Option.map_eq_some_iff.mp hpick
  have hname := List.find?_some hk
  rw [beq_iff_eq] at hname
  have hbacked : Backed s ctx (.classConstant receiver (.literal name)) _ :=
    .classConstant he (List.mem_of_find?_eq_some hk) hname
  rw [hname] at hbacked
  exact hbacked

theorem backed_function {callee : Node} {type : Except LookupError UnionType} {d : FunctionDecl}
    (h : .ok d ∈ (ofSnapshot s).functionsOf ctx callee type) :
    Backed s ctx (.call callee) (.declaration (.function d) true) := by
  obtain ⟨f, hf⟩ := found_of_mem_functionsOf h
  obtain ⟨e, he, rfl⟩ := first_of_findFunction? hf
  exact .function he

theorem backed_constant {name : String} {d : ConstantDecl}
    (h : (ofSnapshot s).namedConstant ctx name = .ok d) :
    Backed s ctx (.constantRef name) (.declaration (.constant d) false) := by
  obtain ⟨c, hc⟩ := found_of_namedConstant h
  obtain ⟨e, he, rfl⟩ := first_of_findConstant? hc
  exact .constant he

theorem backed_variable {name : NameSlot} {records : List Record}
    (h : Resolver.variableTargets mode ctx name = .ok records) :
    ∀ record ∈ records, Backed s ctx (.variable name) record := by
  cases mode with
  | definition =>
    cases h
    exact nofun
  | typeDefinition =>
    cases name with
    | computed m => cases h
    | literal name =>
      simp only [Resolver.variableTargets, NameSlot.literal?] at h
      split at h
      · cases h
      · rename_i v hv
        cases h
        intro record hrecord
        cases List.mem_singleton.mp hrecord
        exact .variable hv

theorem backed_of_targets {t : Toggles} {n : Node} {records : List Record}
    (h : ((ofSnapshot s).resolver t).targets mode ctx n = .ok records) :
    ∀ record ∈ records, Backed s ctx n.shape record := by
  obtain ⟨shape, r⟩ := n
  cases shape with
  | classRef name =>
    rw [targets_classRef] at h
    obtain ⟨u, _, rfl⟩ := ok_of_map_eq_ok h
    exact fun record hrecord => backed_of_mem_classRecords hrecord _
  | property isStatic receiver name =>
    rw [targets_property] at h
    obtain ⟨d, hd, rfl⟩ := ok_of_map_eq_ok h
    cases name with
    | computed m => cases hd
    | literal name => exact List.forall_mem_singleton.mpr (backed_property hd)
  | methodCall isStatic receiver name =>
    cases name with
    | computed m => cases h
    | literal name =>
      rw [targets_methodCall] at h
      obtain ⟨d, hd, rfl⟩ := ok_of_map_eq_ok h
      exact List.forall_mem_singleton.mpr (backed_method hd isStatic)
  | call callee =>
    rw [targets_call] at h
    obtain ⟨ds, hds, rfl⟩ := ok_of_map_eq_ok h
    intro record hrecord
    obtain ⟨d, hd, rfl⟩ := List.mem_map.mp hrecord
    have hmem : .ok d ∈
        (ofSnapshot s).functionsOf ctx callee ((ofSnapshot s).typeOf ctx callee) := by
      rw [allOrFirstError_eq_ok_iff.mp hds]
      exact List.mem_map_of_mem hd
    exact backed_function hmem
  | classConstant receiver name =>
    cases name with
    | computed m => cases h
    | literal name =>
      rw [targets_classConstant] at h
      split at h
      · obtain ⟨u, _, rfl⟩ := ok_of_map_eq_ok h
        exact fun record hrecord => backed_of_mem_classRecords hrecord _
      · obtain ⟨d, hd, rfl⟩ := ok_of_map_eq_ok h
        exact List.forall_mem_singleton.mpr (backed_classConstant hd)
  | constantRef name =>
    rw [targets_constantRef] at h
    obtain ⟨d, hd, rfl⟩ := ok_of_map_eq_ok h
    exact List.forall_mem_singleton.mpr (backed_constant hd)
  | «variable» name => exact backed_variable h
  | other =>
    cases h
    exact nofun

/-- One step of a run: what a node adds is backed. -/
theorem backed_of_mem_records {t : Toggles} {n : Node} {record : Record}
    (h : record ∈ ((ofSnapshot s).resolver t).records mode ctx n) :
    Backed s ctx n.shape record := by
  obtain ⟨records, htargets, hrecord⟩ := Resolver.targets_of_mem_records h
  exact backed_of_targets htargets record hrecord

/-! ## Locations -/

theorem located_of_mem_typeLocations {u : UnionType} {l : Location}
    (h : l ∈ (ofSnapshot s).index.typeLocations u) : Located s l := by
  rw [typeLocations_index] at h
  obtain ⟨e, he, rfl⟩ := List.mem_map.mp h
  obtain ⟨c, _, hc⟩ := List.mem_filterMap.mp he
  exact .classLike (first_of_findClass? hc)

/-- A declaration is shown as itself or as its type. -/
theorem located_of_declaration {d : Declaration} {hasTarget : Bool} {l : Location}
    (h : l ∈ (Record.declaration d hasTarget).locations (ofSnapshot s).index mode)
    (hd : Located s d.location) : Located s l := by
  rw [Record.locations] at h
  split at h
  · exact located_of_mem_typeLocations h
  · cases List.mem_singleton.mp h
    exact hd

theorem located_of_backed {shape : Shape} {record : Record} (h : Backed s ctx shape record)
    {l : Location} (hl : l ∈ record.locations (ofSnapshot s).index mode) : Located s l := by
  cases h with
  | classLike he => exact located_of_declaration hl (.classLike he)
  | function he => exact located_of_declaration hl (.function he)
  | constant he => exact located_of_declaration hl (.constant he)
  | property he hp _ _ => exact located_of_declaration hl (.property he hp)
  | method he hm _ => exact located_of_declaration hl (.method he hm)
  | classConstant he hc _ => exact located_of_declaration hl (.classConstant he hc)
  | «variable» _ => exact located_of_mem_typeLocations hl

/-! ## Runs -/

/-- Every record that a request is given rests on the first entry of a name in the snapshot, on a
member of such an entry, or on a variable of the context. A request that is filled in this way is
shown as nothing but locations of such entries and members. -/
theorem nothing_invented (s : Snapshot) (t : Toggles) :
    (∀ ctx n req, ∃ added,
      ((ofSnapshot s).resolver t).resolve ctx n req = req.append added ∧
        ∀ record ∈ added, Backed s ctx n.shape record) ∧
    ∀ mode calls,
      ∀ l ∈ (((ofSnapshot s).resolver t).resolveAll (Request.start mode) calls).locations
        (ofSnapshot s).index, Located s l := by
  constructor
  · intro ctx n req
    exact ⟨_, rfl, fun record hrecord => backed_of_mem_records hrecord⟩
  · intro mode calls l hl
    rw [Resolver.resolveAll_eq_append, Request.locations, mem_firstOccurrences,
      List.mem_flatMap] at hl
    obtain ⟨record, hrecord, hl⟩ := hl
    obtain ⟨call, _, hadded⟩ := List.mem_flatMap.mp hrecord
    rw [Resolver.contribution_eq_records] at hadded
    exact located_of_backed (backed_of_mem_records hadded) hl

/-! ## A class that is declared twice -/

namespace Twice

def basketFile : Url :=
  ⟨"file:///src/basket.php"⟩

def total (line : UInt32) : MethodEntry :=
  ⟨"total", line, false, UnionType.ofList [.native .int]⟩

def basket : ClassEntry :=
  ⟨Name.ofText "Basket", .ordinary, basketFile, 3, none, [], [], [], [total 8], []⟩

/-- Another class of that name in another file. -/
def secondBasket : ClassEntry :=
  ⟨Name.ofText "BASKET", .ordinary, ⟨"file:///old/basket.php"⟩, 3, none, [], [], [], [total 21], []⟩

/-- `class Cart extends basket` -/
def cart : ClassEntry :=
  ⟨Name.ofText "Cart", .ordinary, ⟨"file:///src/cart.php"⟩, 5, some (Name.ofText "basket"),
    [], [], [], [], []⟩

def snapshot : Snapshot :=
  ⟨[cart, basket, secondBasket], [], []⟩

/-- `cart::TOTAL()` -/
def callee : Node :=
  Node.staticCall (Node.classRef "cart") (.literal "TOTAL")

/-- The start of the line on which the first basket declares its method. -/
def totalLine : Location :=
  ⟨basketFile, ⟨⟨8, 0⟩, ⟨8, 0⟩⟩⟩

def found : Record :=
  .declaration (.method ⟨⟨basket.name, "total"⟩, false, UnionType.ofList [.native .int],
    totalLine⟩) true

theorem targets_callee :
    ((ofSnapshot snapshot).resolver Toggles.all).targets .definition Context.empty callee =
      .ok [found] := by
  have hclass : (ofSnapshot snapshot).typeOf Context.empty (Node.classRef "cart") =
      .ok (UnionType.ofList [.instanceOf (Name.ofText "cart")]) :=
    eq_ok_of_toOption (by decide +kernel)
  have hcart : (ofSnapshot snapshot).findClass? (Name.ofText "cart") = some cart := by
    decide +kernel
  have hbasket : (ofSnapshot snapshot).findClass? (Name.ofText "basket") = some basket := by
    decide +kernel
  have hinherited : (ofSnapshot snapshot).findMethod? (Name.ofText "cart") "TOTAL" =
      basket.findMethod? "TOTAL" := by
    obtain ⟨d, hd⟩ : ∃ d, basket.findMethod? "TOTAL" = some d := ⟨_, rfl⟩
    rw [hd]
    exact findMember?_firstBase hcart rfl rfl (by decide +kernel) hbasket hd
  rw [callee, Node.staticCall, Node.ofShape, targets_methodCall, hclass,
    methodOf, memberOf_instance hcart hinherited]
  rfl

end Twice

open Twice in
/-- The cart has the method of the first basket, in the file of that basket. -/
theorem nothing_invented_twice :
    (((ofSnapshot snapshot).resolver Toggles.all).resolve Context.empty callee
      (Request.start .definition)).records = [found] ∧
    Backed snapshot Context.empty callee.shape found ∧
    totalLine ∈ (((ofSnapshot snapshot).resolver Toggles.all).resolveAll
      (Request.start .definition) [(Context.empty, callee)]).locations
      (ofSnapshot snapshot).index ∧
    Located snapshot totalLine := by
  obtain ⟨hrecords, hlocations⟩ := nothing_invented snapshot Toggles.all
  obtain ⟨added, hadded, hbacked⟩ := hrecords Context.empty callee (Request.start .definition)
  have hfound : (((ofSnapshot snapshot).resolver Toggles.all).resolve Context.empty callee
      (Request.start .definition)).records = [found] :=
    (Resolver.contribution_eq_records _ .definition (Context.empty, callee)).trans
      (Resolver.records_of_targets rfl targets_callee)
  have hmem : found ∈ added := by
    rw [hadded] at hfound
    have honly : added = [found] := hfound
    rw [honly]
    exact List.mem_cons_self
  have hshown : totalLine ∈
      (((ofSnapshot snapshot).resolver Toggles.all).resolveAll (Request.start .definition)
        [(Context.empty, callee)]).locations (ofSnapshot snapshot).index := by
    rw [Resolver.resolveAll, List.foldl_cons, List.foldl_nil, Request.locations, hfound]
    exact mem_firstOccurrences.mpr List.mem_cons_self
  exact ⟨hfound, hbacked found hmem, hshown, hlocations _ _ _ hshown⟩

end CodeBase

end GotoDefinition
