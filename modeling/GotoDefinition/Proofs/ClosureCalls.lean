import GotoDefinition.Proofs.Receiver

/-!
# GotoDefinition.Proofs.ClosureCalls

Calls through a value.

A callee that is no name is called through the closures of its type, each of which is the name of a
function. The call refers to all of these functions or to none: a closure that is not in the index
spoils the others. Its type is made from the same functions, so the two succeed together. Types that
are no closures add nothing and spoil nothing.

* `allOrFirstError_closureFunctions` — the functions are collected when all of them are indexed.
* `Declared.distinct` — no function is met twice.
* `every_closure_or_none` — the records and the type of such a call.
-/

namespace GotoDefinition

/-! ## Closures of a type -/

namespace Ty

/-- The function that a closure type is about. -/
def function? : Ty → Option FunctionName
  | .native _ => none
  | .instanceOf _ => none
  | .closure f => some f

def isClosure (t : Ty) : Bool :=
  t.function?.isSome

theorem function?_eq_some_iff {t : Ty} {f : FunctionName} :
    t.function? = some f ↔ t = .closure f := by
  cases t <;> simp [function?]

end Ty

namespace UnionType

theorem closures_eq_filterMap (u : UnionType) : u.closures = u.types.filterMap Ty.function? := by
  rw [closures]
  congr 1
  funext t
  cases t <;> rfl

/-- Only closure types count. -/
theorem closures_congr {u v : UnionType}
    (h : u.types.filter Ty.isClosure = v.types.filter Ty.isClosure) :
    u.closures = v.closures := by
  have hclosures : ∀ w : UnionType,
      w.closures = (w.types.filter Ty.isClosure).filterMap Ty.function? := by
    intro w
    rw [closures_eq_filterMap, List.filterMap_filter]
    congr 1
    funext t
    cases t <;> rfl
  rw [hclosures, hclosures, h]

theorem closures_nodup (u : UnionType) : (u.closures.map Name.key).Nodup := by
  rw [List.Nodup, List.pairwise_map, closures_eq_filterMap]
  refine u.distinct.filterMap _ ?_
  intro s t hst f hf g hg hkey
  rw [Ty.function?_eq_some_iff.mp hf, Ty.function?_eq_some_iff.mp hg, Ty.same,
    Name.same_iff.mpr hkey] at hst
  cases hst

end UnionType

namespace CodeBase

variable {cb : CodeBase} {ctx : Context}

/-! ## Functions of closures -/

/-- The functions of some closures, one for each and in their order. -/
def Declared (cb : CodeBase) (fs : List FunctionName) (ds : List FunctionDecl) : Prop :=
  List.Forall₂ (fun f d => cb.findFunction? f = some d) fs ds

theorem exists_declared {fs : List FunctionName}
    (h : ∀ f ∈ fs, (cb.findFunction? f).isSome = true) : ∃ ds, cb.Declared fs ds := by
  induction fs with
  | nil => exact ⟨[], .nil⟩
  | cons f fs ih =>
    obtain ⟨d, hd⟩ := Option.isSome_iff_exists.mp (h f List.mem_cons_self)
    obtain ⟨ds, hds⟩ := ih fun g hg => h g (List.mem_cons_of_mem f hg)
    exact ⟨d :: ds, .cons hd hds⟩

namespace Declared

variable {fs : List FunctionName} {ds : List FunctionDecl}

theorem indexed (h : cb.Declared fs ds) :
    ∀ f ∈ fs, (cb.findFunction? f).isSome = true := by
  induction h with
  | nil => nofun
  | cons hd _ ih => exact List.forall_mem_cons.mpr ⟨by rw [hd, Option.isSome_some], ih⟩

theorem keys (h : cb.Declared fs ds) : ds.map (fun d => d.name.key) = fs.map Name.key := by
  induction h with
  | nil => rfl
  | cons hd _ ih => rw [List.map_cons, List.map_cons, ih, key_of_findFunction? hd]

/-- Closures of one type name functions that differ by more than case. -/
theorem distinct {u : UnionType} (h : cb.Declared u.closures ds) :
    ds.Pairwise fun d e => d.name.same e.name = false := by
  have hnodup := u.closures_nodup
  rw [← h.keys, List.Nodup, List.pairwise_map] at hnodup
  refine hnodup.imp ?_
  intro d e hkeys
  rw [Bool.eq_false_iff, Ne, Name.same_iff]
  exact hkeys

end Declared

/-- What the index says about a single closure. -/
def indexedFunction (cb : CodeBase) (f : FunctionName) : Except LookupError FunctionDecl :=
  match cb.findFunction? f with
  | some d => .ok d
  | none => .error (.notIndexed f.text)

theorem indexedFunction_eq_ok_iff {f : FunctionName} {d : FunctionDecl} :
    cb.indexedFunction f = .ok d ↔ cb.findFunction? f = some d := by
  rw [indexedFunction]
  cases cb.findFunction? f <;> simp

theorem closureFunctions_ok (u : UnionType) :
    cb.closureFunctions (.ok u) = u.closures.map cb.indexedFunction :=
  rfl

theorem allOrFirstError_closureFunctions {type : Except LookupError UnionType}
    {ds : List FunctionDecl} :
    allOrFirstError (cb.closureFunctions type) = .ok ds ↔
      ∃ u, type = .ok u ∧ cb.Declared u.closures ds := by
  cases type with
  | error e => exact iff_of_false nofun nofun
  | ok u =>
    simp only [closureFunctions_ok, allOrFirstError_map_eq_ok_iff, indexedFunction_eq_ok_iff,
      Declared, Except.ok.injEq, exists_eq_left']

/-! ## Calls -/

variable {callee : Node}

/-- All functions of a callee are known: it has a type, whose closures are all indexed. -/
def Callable (cb : CodeBase) (ctx : Context) (callee : Node) : Prop :=
  ∃ u, cb.typeOf ctx callee = .ok u ∧ ∀ f ∈ u.closures, (cb.findFunction? f).isSome = true

theorem callable_iff (hvalue : ∀ name, callee.shape ≠ .classRef name) :
    cb.Callable ctx callee ↔
      ∃ ds, allOrFirstError (cb.functionsOf ctx callee (cb.typeOf ctx callee)) = .ok ds := by
  simp only [functionsOf_value hvalue, allOrFirstError_closureFunctions]
  constructor
  · rintro ⟨u, hu, hindexed⟩
    obtain ⟨ds, hds⟩ := exists_declared hindexed
    exact ⟨ds, u, hu, hds⟩
  · rintro ⟨ds, u, hu, hds⟩
    exact ⟨u, hu, hds.indexed⟩

theorem typeOf_call_ok_iff (hvalue : ∀ name, callee.shape ≠ .classRef name) (r : Range) :
    (∃ v, cb.typeOf ctx (.mk (.call callee) r) = .ok v) ↔ cb.Callable ctx callee := by
  rw [callable_iff hvalue, typeOf_call]
  cases allOrFirstError (cb.functionsOf ctx callee (cb.typeOf ctx callee)) with
  | error e => exact iff_of_false nofun nofun
  | ok ds => exact iff_of_true ⟨_, rfl⟩ ⟨ds, rfl⟩

/-- The two readers of the functions, the one for the records and the one for the type. -/
theorem call_of_functions {u : UnionType} {ds : List FunctionDecl}
    (hvalue : ∀ name, callee.shape ≠ .classRef name) (hu : cb.typeOf ctx callee = .ok u)
    (hds : cb.Declared u.closures ds) (t : Toggles) (mode : Mode) (r : Range) :
    (cb.resolver t).targets mode ctx (.mk (.call callee) r) =
        .ok (ds.map fun d => .declaration (.function d) true) ∧
      cb.typeOf ctx (.mk (.call callee) r) = .ok (returned UnionType.empty ds) := by
  have hcollected : allOrFirstError (cb.closureFunctions (cb.typeOf ctx callee)) = .ok ds :=
    allOrFirstError_closureFunctions.mpr ⟨u, hu, hds⟩
  rw [targets_call, typeOf_call, functionsOf_value hvalue, hcollected]
  exact ⟨rfl, rfl⟩

theorem resolve_call_of_not_callable (hvalue : ∀ name, callee.shape ≠ .classRef name)
    (h : ¬cb.Callable ctx callee) (t : Toggles) (r : Range) (req : Request) :
    (cb.resolver t).resolve ctx (.mk (.call callee) r) req = req := by
  have hnone : (cb.resolver t).records req.mode ctx (.mk (.call callee) r) = [] := by
    rw [callable_iff hvalue] at h
    rw [Resolver.records, targets_call]
    cases hcollected : allOrFirstError (cb.functionsOf ctx callee (cb.typeOf ctx callee)) with
    | error e => exact ite_self _
    | ok ds => exact absurd ⟨ds, hcollected⟩ h
  rw [Resolver.resolve, hnone, Request.append, List.append_nil]

/-! ## A value that is called twice -/

namespace Handlers

def sources : Url :=
  ⟨"file:///src/handlers.php"⟩

def closureOf (name : String) : Ty :=
  .closure (Name.ofText name)

/-- Two closures, with a native type and a class between them. -/
def mixed : UnionType :=
  UnionType.ofList
    [closureOf "OPEN", .native .null, .instanceOf (Name.ofText "Stream"), closureOf "close"]

def makes : FunctionEntry :=
  ⟨Name.ofText "make", sources, 3, mixed⟩

def opens : FunctionEntry :=
  ⟨Name.ofText "open", sources, 8, UnionType.ofList [.native .int, .native .string]⟩

def closes : FunctionEntry :=
  ⟨Name.ofText "close", sources, 12, UnionType.ofList [.native .string, .native .null]⟩

def codeBase : CodeBase :=
  ofSnapshot ⟨[], [makes, opens, closes], []⟩

/-- One of the two functions in `$stale` is nowhere to be found. -/
def context : Context :=
  (Context.empty.withVariable (.named "make" (UnionType.ofList [closureOf "make"]))).withVariable
    (.named "stale" (UnionType.ofList [closureOf "open", closureOf "ghost"]))

/-- `$make()` -/
def made : Node :=
  Node.call (Node.variableNamed "make")

def stale : Node :=
  Node.variableNamed "stale"

def request : Request :=
  Request.start .definition

end Handlers

/-! ## Every closure or none -/

/-- A call through a value refers to the functions of all closures of the type of the value, in the
order of the type and no two of one name, and its type is what these return, merged in that order.
If one of the closures is not indexed, or the value has no type, the call refers to nothing and has
no type. Native types and classes do not matter: values whose types differ in these alone are called
with the same result. -/
theorem every_closure_or_none (hvalue : ∀ name, callee.shape ≠ .classRef name) (r : Range)
    (t : Toggles) (req : Request) (hallow : t.allow req.mode = true) :
    (∀ u, cb.typeOf ctx callee = .ok u → (∀ f ∈ u.closures, (cb.findFunction? f).isSome = true) →
      ∃ ds, List.Forall₂ (fun f d => cb.findFunction? f = some d) u.closures ds ∧
        (ds.Pairwise fun d e => d.name.same e.name = false) ∧
        (cb.resolver t).resolve ctx (.mk (.call callee) r) req =
          req.append (ds.map fun d => .declaration (.function d) true) ∧
        cb.typeOf ctx (.mk (.call callee) r) =
          .ok (ds.foldl (fun v d => v.merge d.returns) UnionType.empty)) ∧
    ((∀ u, cb.typeOf ctx callee = .ok u → ∃ f ∈ u.closures, cb.findFunction? f = none) →
      (cb.resolver t).resolve ctx (.mk (.call callee) r) req = req) ∧
    ((∃ v, cb.typeOf ctx (.mk (.call callee) r) = .ok v) ↔
      ∃ u, cb.typeOf ctx callee = .ok u ∧
        ∀ f ∈ u.closures, (cb.findFunction? f).isSome = true) ∧
    ∀ ctx' callee' u v, (∀ name, callee'.shape ≠ .classRef name) →
      cb.typeOf ctx callee = .ok u → cb.typeOf ctx' callee' = .ok v →
      u.types.filter Ty.isClosure = v.types.filter Ty.isClosure →
      (cb.resolver t).resolve ctx' (.mk (.call callee') r) req =
          (cb.resolver t).resolve ctx (.mk (.call callee) r) req ∧
        cb.typeOf ctx' (.mk (.call callee') r) = cb.typeOf ctx (.mk (.call callee) r) := by
  refine ⟨fun u hu hindexed => ?_, fun hspoilt => ?_, typeOf_call_ok_iff hvalue r, ?_⟩
  · obtain ⟨ds, hds⟩ := exists_declared hindexed
    have htargets := (call_of_functions hvalue hu hds t req.mode r).1
    refine ⟨ds, hds, hds.distinct, ?_, (call_of_functions hvalue hu hds t req.mode r).2⟩
    rw [Resolver.resolve, Resolver.records_of_targets hallow htargets]
  · refine resolve_call_of_not_callable hvalue ?_ t r req
    rintro ⟨u, hu, hindexed⟩
    obtain ⟨f, hf, hmissing⟩ := hspoilt u hu
    have hfound := hindexed f hf
    rw [hmissing] at hfound
    cases hfound
  · intro ctx' callee' u v hvalue' hu hv hclosures
    have hfunctions : cb.functionsOf ctx' callee' (cb.typeOf ctx' callee') =
        cb.functionsOf ctx callee (cb.typeOf ctx callee) := by
      rw [functionsOf_value hvalue', functionsOf_value hvalue, hu, hv, closureFunctions_ok,
        closureFunctions_ok, UnionType.closures_congr hclosures]
    rw [typeOf_call, typeOf_call, Resolver.resolve, Resolver.resolve, Resolver.records,
      Resolver.records, targets_call, targets_call, hfunctions]
    exact ⟨rfl, rfl⟩

open Handlers in
/-- What `$make()` returns is called again; `$stale()` finds nothing, although `open` is indexed. -/
theorem every_closure_or_none_handlers :
    (∀ name, made.shape ≠ .classRef name) ∧ (∀ name, stale.shape ≠ .classRef name) ∧
    Toggles.all.allow request.mode = true ∧ codeBase.typeOf context made = .ok mixed ∧
    (codeBase.resolver Toggles.all).resolve context (.mk (.call made) Range.zero) request =
      ⟨.definition,
        [.declaration (.function opens.decl) true, .declaration (.function closes.decl) true]⟩ ∧
    codeBase.typeOf context (.mk (.call made) Range.zero) =
      .ok (UnionType.ofList [.native .int, .native .string, .native .null]) ∧
    (codeBase.resolver Toggles.all).resolve context (.mk (.call stale) Range.zero) request =
      request := by
  have hmade : ∀ name, made.shape ≠ .classRef name := nofun
  have hstale : ∀ name, stale.shape ≠ .classRef name := nofun
  have htype : codeBase.typeOf context made = .ok mixed := eq_ok_of_toOption (by decide +kernel)
  have hopen : codeBase.findFunction? (Name.ofText "OPEN") = some opens.decl := by
    decide +kernel
  have hclose : codeBase.findFunction? (Name.ofText "close") = some closes.decl := by
    decide +kernel
  have hclosures : mixed.closures = [Name.ofText "OPEN", Name.ofText "close"] := by
    decide +kernel
  obtain ⟨ds, hds, _, hrecords, hreturned⟩ :=
    (every_closure_or_none hmade Range.zero Toggles.all request rfl).1 mixed htype
      (by decide +kernel)
  have hboth : ds = [opens.decl, closes.decl] := by
    rw [hclosures] at hds
    simpa [List.forall₂_cons_left_iff, hopen, hclose] using hds
  subst hboth
  refine ⟨hmade, hstale, rfl, htype, ?_, ?_, ?_⟩
  · rw [hrecords]
    rfl
  · rw [hreturned]
    exact congrArg Except.ok (by decide +kernel)
  · refine (every_closure_or_none hstale Range.zero Toggles.all request rfl).2.1 ?_
    intro u hu
    have hstored : codeBase.typeOf context stale =
        .ok (UnionType.ofList [closureOf "open", closureOf "ghost"]) :=
      eq_ok_of_toOption (by decide +kernel)
    rw [hstored] at hu
    cases hu
    exact ⟨Name.ofText "ghost", by decide +kernel, by decide +kernel⟩

end CodeBase

end GotoDefinition
