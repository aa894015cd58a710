import GotoDefinition.CodeBase.Inference
import GotoDefinition.Proofs.Run

/-!
# GotoDefinition.Proofs.Targets

What the nodes of each shape come to in a code base: one lookup decides both the type of a node and
the declarations that it refers to.

* `typeOf_property`, `typeOf_methodCall`, `typeOf_call`, `typeOf_classConstant` — the type of what
  was found.
* `targets_classRef`, `targets_property`, `targets_methodCall`, `targets_call`,
  `targets_classConstant`, `targets_constantRef` — the records of what was found.
-/

namespace GotoDefinition

theorem eq_ok_of_toOption {ε α : Type} {x : Except ε α} {a : α} (h : x.toOption = some a) :
    x = .ok a := by
  cases x with
  | error e => cases h
  | ok b => exact congrArg Except.ok (Option.some.inj h)

theorem UnionType.classes_instanceOf (c : ClassName) :
    (UnionType.ofList [.instanceOf c]).classes = [c] :=
  rfl

namespace CodeBase

variable (cb : CodeBase) (t : Toggles) (mode : Mode) (ctx : Context) (r : Range)

/-! ## Classes -/

theorem targets_classRef (name : String) :
    (cb.resolver t).targets mode ctx (.mk (.classRef name) r) =
      (cb.typeOf ctx (.mk (.classRef name) r)).map (cb.resolver t).classRecords := by
  simp only [Resolver.targets, Node.shape, Resolver.classTargets, resolver, types]
  cases cb.typeOf ctx (.mk (.classRef name) r) with
  | error e => rfl
  | ok u => rfl

/-! ## Members -/

theorem typeOf_property (isStatic : Bool) (receiver : Node) (name : NameSlot) :
    cb.typeOf ctx (.mk (.property isStatic receiver name) r) =
      (cb.propertyOf receiver (cb.typeOf ctx receiver) name isStatic).map PropertyDecl.type := by
  rw [typeOf]
  cases cb.propertyOf receiver (cb.typeOf ctx receiver) name isStatic with
  | error e => rfl
  | ok d => rfl

theorem targets_property (isStatic : Bool) (receiver : Node) (name : NameSlot) :
    (cb.resolver t).targets mode ctx (.mk (.property isStatic receiver name) r) =
      (cb.propertyOf receiver (cb.typeOf ctx receiver) name isStatic).map fun d =>
        [.declaration (.property d) true] := by
  have hasked : cb.propertyAt ctx (.mk (.property isStatic receiver name) r) isStatic =
      cb.propertyOf receiver (cb.typeOf ctx receiver) name isStatic := if_pos rfl
  simp only [Resolver.targets, Node.shape, Resolver.propertyTargets, resolver, members, hasked]
  cases cb.propertyOf receiver (cb.typeOf ctx receiver) name isStatic with
  | error e => rfl
  | ok d => rfl

theorem typeOf_methodCall (isStatic : Bool) (receiver : Node) (name : String) :
    cb.typeOf ctx (.mk (.methodCall isStatic receiver (.literal name)) r) =
      (cb.methodOf receiver (cb.typeOf ctx receiver) name).map MethodDecl.returns := by
  rw [typeOf]
  simp only [NameSlot.literal?]
  cases cb.methodOf receiver (cb.typeOf ctx receiver) name with
  | error e => rfl
  | ok d => rfl

theorem targets_methodCall (isStatic : Bool) (receiver : Node) (name : String) :
    (cb.resolver t).targets mode ctx (.mk (.methodCall isStatic receiver (.literal name)) r) =
      (cb.methodOf receiver (cb.typeOf ctx receiver) name).map fun d =>
        [.declaration (.method d) true] := by
  have hasked : cb.methodAt ctx (.mk (.methodCall isStatic receiver (.literal name)) r) name
      isStatic = cb.methodOf receiver (cb.typeOf ctx receiver) name := if_pos rfl
  simp only [Resolver.targets, Node.shape, Resolver.methodTargets, NameSlot.literal?, resolver,
    members, hasked]
  cases cb.methodOf receiver (cb.typeOf ctx receiver) name with
  | error e => rfl
  | ok d => rfl

theorem typeOf_classConstant (receiver : Node) (name : String) :
    cb.typeOf ctx (.mk (.classConstant receiver (.literal name)) r) =
      if Text.alike name "class" then .ok (UnionType.ofList [.native .string])
      else
        (cb.classConstantOf receiver (cb.typeOf ctx receiver) (.literal name)).map fun _ =>
          UnionType.empty := by
  rw [typeOf]
  simp only [NameSlot.literal?]
  split
  · rfl
  · cases cb.classConstantOf receiver (cb.typeOf ctx receiver) (.literal name) with
    | error e => rfl
    | ok d => rfl

theorem targets_classConstant (receiver : Node) (name : String) :
    (cb.resolver t).targets mode ctx (.mk (.classConstant receiver (.literal name)) r) =
      if Text.alike name "class" then
        (cb.typeOf ctx receiver).map (cb.resolver t).classRecords
      else
        (cb.classConstantOf receiver (cb.typeOf ctx receiver) (.literal name)).map fun d =>
          [.declaration (.classConstant d) false] := by
  simp only [Resolver.targets, Node.shape, Resolver.classConstantTargets_literal,
    Resolver.classTargets, resolver, types, members, classConstantAt]
  split
  · cases cb.typeOf ctx receiver with
    | error e => rfl
    | ok u => rfl
  · cases cb.classConstantOf receiver (cb.typeOf ctx receiver) (.literal name) with
    | error e => rfl
    | ok d => rfl

/-! ## Members of a class -/

variable {cb} {α : Type}

/-- The member of the class itself comes before all that is inherited. -/
theorem findMember?_here {withInterfaces : Bool} {c : ClassName} {e : ClassEntry}
    {pick : ClassEntry → Option α} {a : α} (hfind : cb.findClass? c = some e)
    (hpick : pick e = some a) : cb.findMember? withInterfaces c pick = some a := by
  have hnew : ¬([] : List String).contains c.key = true := by simp
  rw [findMember?, lineage, walk_enter hnew hfind, List.findSome?_cons, hpick]

/-- What the class does not have itself is sought in its first base next. -/
theorem findMember?_firstBase {withInterfaces : Bool} {c d : ClassName} {ds : List ClassName}
    {e f : ClassEntry} {pick : ClassEntry → Option α} {a : α}
    (hfind : cb.findClass? c = some e) (hmissing : pick e = none)
    (hbases : e.bases withInterfaces = d :: ds) (hnew : d.key ≠ c.key)
    (hbase : cb.findClass? d = some f) (hpick : pick f = some a) :
    cb.findMember? withInterfaces c pick = some a := by
  have hunmet : ¬([] : List String).contains c.key = true := by simp
  have hunmet' : ¬[c.key].contains d.key = true := by simpa using hnew
  rw [findMember?, lineage, walk_enter hunmet hfind, List.findSome?_cons, hmissing, hbases,
    List.cons_append, walk_enter hunmet' hbase, List.findSome?_cons, hpick]

theorem memberOf_instance {c : ClassName} {e : ClassEntry} {find : ClassName → Option α} {a : α}
    (hfind : cb.findClass? c = some e) (hmember : find c = some a) (receiver : Node)
    (describe : ClassName → String) :
    cb.memberOf receiver (.ok (UnionType.ofList [.instanceOf c])) describe find = .ok a := by
  have hhas : cb.hasClass c = true := by rw [hasClass, hfind, Option.isSome_some]
  simp only [memberOf, receiverClasses, UnionType.classes_instanceOf, firstMember,
    List.filter_cons_of_pos hhas, List.findSome?_cons, hmember]

theorem propertyOf_instance {c : ClassName} {e : ClassEntry} {name : String} {isStatic : Bool}
    {d : PropertyDecl} (hfind : cb.findClass? c = some e)
    (hpick : e.findProperty? name isStatic = some d) (receiver : Node) :
    cb.propertyOf receiver (.ok (UnionType.ofList [.instanceOf c])) (.literal name) isStatic =
      .ok d := by
  have hfound : cb.findProperty? c name isStatic = some d := findMember?_here hfind hpick
  simp only [propertyOf, NameSlot.literal?]
  exact memberOf_instance hfind hfound receiver _

theorem methodOf_instance {c : ClassName} {e : ClassEntry} {name : String} {d : MethodDecl}
    (hfind : cb.findClass? c = some e) (hpick : e.findMethod? name = some d) (receiver : Node) :
    cb.methodOf receiver (.ok (UnionType.ofList [.instanceOf c])) name = .ok d := by
  have hfound : cb.findMethod? c name = some d := findMember?_here hfind hpick
  exact memberOf_instance hfind hfound receiver _

variable (cb)

/-! ## Functions and constants -/

/-- The types that some functions return, merged in their order into a type. -/
def returned (u : UnionType) (ds : List FunctionDecl) : UnionType :=
  ds.foldl (fun v d => v.merge d.returns) u

/-- Stopping at the first failure loses nothing that collecting all functions would keep. -/
theorem mergeReturns_eq_map (u : UnionType) (fs : List (Except LookupError FunctionDecl)) :
    mergeReturns u fs = (allOrFirstError fs).map (returned u) := by
  induction fs generalizing u with
  | nil => rfl
  | cons f fs ih =>
    cases f with
    | error e => rfl
    | ok d =>
      rw [mergeReturns, ih, allOrFirstError]
      cases allOrFirstError fs with
      | error e => rfl
      | ok ds => rfl

theorem typeOf_call (callee : Node) :
    cb.typeOf ctx (.mk (.call callee) r) =
      (allOrFirstError (cb.functionsOf ctx callee (cb.typeOf ctx callee))).map
        (returned UnionType.empty) := by
  rw [typeOf, mergeReturns_eq_map]

theorem targets_call (callee : Node) :
    (cb.resolver t).targets mode ctx (.mk (.call callee) r) =
      (allOrFirstError (cb.functionsOf ctx callee (cb.typeOf ctx callee))).map
        (List.map fun d => .declaration (.function d) true) := by
  simp only [Resolver.targets, Node.shape, Resolver.callTargets, resolver, members, functionsAt]
  cases allOrFirstError (cb.functionsOf ctx callee (cb.typeOf ctx callee)) with
  | error e => rfl
  | ok ds => rfl

theorem targets_constantRef (name : String) :
    (cb.resolver t).targets mode ctx (.mk (.constantRef name) r) =
      (cb.namedConstant ctx name).map fun d => [.declaration (.constant d) false] := by
  simp only [Resolver.targets, Node.shape, Resolver.constantTargets, resolver, members, constantAt]
  cases cb.namedConstant ctx name with
  | error e => rfl
  | ok d => rfl

end CodeBase

end GotoDefinition
