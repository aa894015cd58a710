import GotoDefinition.Proofs.Targets
import Mathlib.Data.List.Forall2

/-!
# GotoDefinition.Proofs.Receiver

A node depends on its receiver or callee only through the type of that part.

Two nodes of one shape whose parts have the same type, up to the case of class and function names,
have the same type and refer to the same declarations, or both have none. Their failures may differ,
for these describe the receiver. `SameOutcome` compares results in this way, and `Interchangeable`
compares nodes.

* `firstMember_congr`, `functionsOf_congr` — what a code base finds for a type.
* `interchangeable_property`, `interchangeable_methodCall`, `interchangeable_call`,
  `interchangeable_classConstant` — the shapes that have such a part.
* `resolve_congr` — a request is given the same records for both nodes.
-/

namespace GotoDefinition

variable {α β : Type}

/-! ## Related lists -/

theorem filterMap_forall₂ {R : α → α → Prop} {f g : α → Option β}
    (hfg : ∀ a b, R a b → f a = g b) {as bs : List α} (h : List.Forall₂ R as bs) :
    as.filterMap f = bs.filterMap g := by
  induction h with
  | nil => rfl
  | @cons a b as bs hab _ ih => rw [List.filterMap_cons, List.filterMap_cons, hfg a b hab, ih]

theorem findSome?_forall₂ {R : α → α → Prop} {f g : α → Option β}
    (hfg : ∀ a b, R a b → f a = g b) {as bs : List α} (h : List.Forall₂ R as bs) :
    as.findSome? f = bs.findSome? g := by
  rw [← List.head?_filterMap, ← List.head?_filterMap, filterMap_forall₂ hfg h]

/-! ## Results up to the reason of a failure -/

/-- Both succeed, with related values, or both fail. -/
inductive SameOutcome (R : α → α → Prop) :
    Except LookupError α → Except LookupError α → Prop where
  | ok {a b : α} (h : R a b) : SameOutcome R (.ok a) (.ok b)
  | error (e f : LookupError) : SameOutcome R (.error e) (.error f)

namespace SameOutcome

variable {R S : α → α → Prop} {x y : Except LookupError α}

theorem imp (hRS : ∀ a b, R a b → S a b) (h : SameOutcome R x y) : SameOutcome S x y := by
  cases h with
  | ok h => exact .ok (hRS _ _ h)
  | error e f => exact .error e f

theorem refl (hR : ∀ a, R a a) (x : Except LookupError α) : SameOutcome R x x := by
  cases x with
  | error e => exact .error e e
  | ok a => exact .ok (hR a)

theorem map {Q : β → β → Prop} {f : α → β} (hf : ∀ a b, R a b → Q (f a) (f b))
    (h : SameOutcome R x y) : SameOutcome Q (x.map f) (y.map f) := by
  cases h with
  | ok h => exact .ok (hf _ _ h)
  | error e f => exact .error e f

theorem map_eq (f : α → β) (h : SameOutcome Eq x y) : SameOutcome Eq (x.map f) (y.map f) :=
  h.map fun _ _ => congrArg f

theorem eq_ok_iff (h : SameOutcome Eq x y) (a : α) : x = .ok a ↔ y = .ok a := by
  cases h with
  | ok h => rw [h]
  | error e f => exact iff_of_false nofun nofun

end SameOutcome

theorem sameOutcome_allOrFirstError {xs ys : List (Except LookupError α)}
    (h : List.Forall₂ (SameOutcome Eq) xs ys) :
    SameOutcome Eq (allOrFirstError xs) (allOrFirstError ys) := by
  induction h with
  | nil => exact .ok rfl
  | @cons x y xs ys hhead _ ih =>
    cases hhead with
    | error e f => exact .error e f
    | @ok a b hab =>
      subst hab
      rw [allOrFirstError, allOrFirstError]
      generalize allOrFirstError xs = s at ih ⊢
      generalize allOrFirstError ys = t at ih ⊢
      cases ih with
      | error e f => exact .error e f
      | ok has => exact .ok (congrArg (a :: ·) has)

/-! ## Types up to the case of names -/

namespace UnionType

/-- The same types in the same order, up to the case of names. -/
def Same (u v : UnionType) : Prop :=
  u.same v = true

theorem same_iff_forall₂ {u v : UnionType} :
    u.Same v ↔ List.Forall₂ (fun s t => s.same t = true) u.types v.types := by
  rw [List.forall₂_iff_zip]
  simp [Same, same, size]

theorem Same.refl (u : UnionType) : u.Same u :=
  same_iff_forall₂.mpr (List.forall₂_same.mpr fun t _ => Ty.same_refl t)

/-- The classes of two types that are the same are found under the same keys. -/
theorem Same.classes {u v : UnionType} (h : u.Same v) :
    List.Forall₂ (fun c d => c.key = d.key) u.classes v.classes := by
  refine List.rel_filterMap ?_ (same_iff_forall₂.mp h)
  intro s t hst
  cases s <;> cases t <;> simp only [Ty.same] at hst <;> try cases hst
  · exact .none
  · exact .some (Name.same_iff.mp hst)
  · exact .some rfl

theorem Same.closures {u v : UnionType} (h : u.Same v) :
    List.Forall₂ (fun f g => f.key = g.key) u.closures v.closures := by
  refine List.rel_filterMap ?_ (same_iff_forall₂.mp h)
  intro s t hst
  cases s <;> cases t <;> simp only [Ty.same] at hst <;> try cases hst
  · exact .none
  · exact .none
  · exact .some (Name.same_iff.mp hst)

end UnionType

/-- Two inferred types that are the same up to the case of names, or two failures. -/
abbrev SameType : Except LookupError UnionType → Except LookupError UnionType → Prop :=
  SameOutcome UnionType.Same

theorem SameOutcome.sameType {s t : Except LookupError UnionType} (h : SameOutcome Eq s t) :
    SameType s t := by
  refine h.imp ?_
  rintro u _ rfl
  exact .refl u

namespace CodeBase

variable {cb : CodeBase}

/-! ## What is found under a key -/

theorem hasClass_congr {c d : ClassName} (h : c.key = d.key) : cb.hasClass c = cb.hasClass d := by
  rw [hasClass, hasClass, findClass?_congr h]

theorem findFunction?_congr {f g : FunctionName} (h : f.key = g.key) :
    cb.findFunction? f = cb.findFunction? g := by
  rw [findFunction?, findFunction?, h]

theorem lineage_congr {c d : ClassName} (h : c.key = d.key) (b : Bool) :
    cb.lineage b c = cb.lineage b d := by
  have hnew : ∀ e : ClassName, ¬([] : List String).contains e.key = true := by simp
  cases hfind : cb.findClass? c with
  | none =>
    have hfind' : cb.findClass? d = none := by rw [← findClass?_congr h, hfind]
    rw [lineage, lineage, walk_unknown (hnew c) hfind, walk_unknown (hnew d) hfind']
  | some e =>
    have hfind' : cb.findClass? d = some e := by rw [← findClass?_congr h, hfind]
    rw [lineage, lineage, walk_enter (hnew c) hfind, walk_enter (hnew d) hfind', h]

theorem findMember?_congr {c d : ClassName} (h : c.key = d.key) (b : Bool)
    (pick : ClassEntry → Option α) : cb.findMember? b c pick = cb.findMember? b d pick := by
  rw [findMember?, findMember?, lineage_congr h]

theorem indexed_congr {cs ds : List ClassName}
    (h : List.Forall₂ (fun c d => c.key = d.key) cs ds) :
    List.Forall₂ (fun c d => c.key = d.key) (cs.filter cb.hasClass) (ds.filter cb.hasClass) := by
  refine List.rel_filter ?_ h
  intro c d hkey
  simp only [hasClass_congr hkey]

/-! ## Members of a receiver -/

/-- The first class of a receiver that has a member depends on the keys of the classes alone. -/
theorem firstMember_congr {describe describe' : ClassName → String}
    {find find' : ClassName → Option α} {cs ds : List ClassName}
    (hfind : ∀ c d, c.key = d.key → find c = find' d)
    (h : List.Forall₂ (fun c d => c.key = d.key) cs ds) :
    SameOutcome Eq (cb.firstMember describe find cs) (cb.firstMember describe' find' ds) := by
  have hfound : (cs.filter cb.hasClass).findSome? find = (ds.filter cb.hasClass).findSome? find' :=
    findSome?_forall₂ hfind (indexed_congr h)
  cases h with
  | nil => exact .error _ _
  | @cons c d cs ds hkey hrest =>
    rw [firstMember, firstMember, hfound]
    cases ((d :: ds).filter cb.hasClass).findSome? find' with
    | some member => exact .ok rfl
    | none =>
      dsimp only
      split <;> split <;> exact .error _ _

theorem memberOf_congr {m n : Node} {s t : Except LookupError UnionType}
    {describe describe' : ClassName → String} {find find' : ClassName → Option α}
    (hfind : ∀ c d, c.key = d.key → find c = find' d) (h : SameType s t) :
    SameOutcome Eq (cb.memberOf m s describe find) (cb.memberOf n t describe' find') := by
  cases h with
  | error e f => exact .error e f
  | @ok u v h =>
    have hclasses := h.classes
    simp only [memberOf, receiverClasses]
    cases hu : u.classes with
    | nil =>
      rw [hu, List.forall₂_nil_left_iff] at hclasses
      rw [hclasses]
      exact .error _ _
    | cons c cs =>
      rw [hu, List.forall₂_cons_left_iff] at hclasses
      obtain ⟨d, ds, hkey, hrest, hv⟩ := hclasses
      rw [hv]
      exact firstMember_congr hfind (.cons hkey hrest)

/-! ## Functions of a callee -/

theorem closureFunctions_congr {s t : Except LookupError UnionType} (h : SameType s t) :
    List.Forall₂ (SameOutcome Eq) (cb.closureFunctions s) (cb.closureFunctions t) := by
  cases h with
  | error e f => exact .cons (.error e f) .nil
  | ok h =>
    refine List.rel_map ?_ h.closures
    intro f g hkey
    simp only [findFunction?_congr hkey]
    cases cb.findFunction? g with
    | none => exact .error _ _
    | some d => exact .ok rfl

/-- A callee that is no name is called through its value. -/
theorem functionsOf_value {ctx : Context} {n : Node} (h : ∀ name, n.shape ≠ .classRef name)
    (s : Except LookupError UnionType) : cb.functionsOf ctx n s = cb.closureFunctions s := by
  rw [functionsOf]
  split
  · rename_i name hname
    exact absurd hname (h name)
  · rfl

theorem functionsOf_congr {ctx : Context} {m n : Node} {s t : Except LookupError UnionType}
    (hm : ∀ name, m.shape ≠ .classRef name) (hn : ∀ name, n.shape ≠ .classRef name)
    (h : SameType s t) :
    List.Forall₂ (SameOutcome Eq) (cb.functionsOf ctx m s) (cb.functionsOf ctx n t) := by
  rw [functionsOf_value hm, functionsOf_value hn]
  exact closureFunctions_congr h

end CodeBase

/-! ## Names of members -/

/-- Two names of members that are both computed, or both written out and related. -/
inductive SameSlot (R : String → String → Prop) : NameSlot → NameSlot → Prop where
  | literal {a b : String} (h : R a b) : SameSlot R (.literal a) (.literal b)
  | computed (m n : Node) : SameSlot R (.computed m) (.computed n)

theorem SameSlot.refl {R : String → String → Prop} (hR : ∀ a, R a a) (name : NameSlot) :
    SameSlot R name name := by
  cases name with
  | literal a => exact .literal (hR a)
  | computed n => exact .computed n n

/-- Equal but for the `$`s in front. -/
def SameBare (a b : String) : Prop :=
  Text.stripLeading '$' a = Text.stripLeading '$' b

/-- Equal up to case. -/
def SameLetters (a b : String) : Prop :=
  Text.alike a b = true

/-- Equal, or both the name that stands for the class itself. -/
def SameConstant (a b : String) : Prop :=
  a = b ∨ Text.alike a "class" = true ∧ Text.alike b "class" = true

theorem SameBare.refl (a : String) : SameBare a a :=
  rfl

theorem SameLetters.refl (a : String) : SameLetters a a :=
  Text.alike_refl a

theorem SameConstant.refl (a : String) : SameConstant a a :=
  .inl rfl

theorem ClassEntry.findProperty?_congr {a b : String} (h : SameBare a b) (e : ClassEntry)
    (isStatic : Bool) : e.findProperty? a isStatic = e.findProperty? b isStatic := by
  unfold SameBare at h
  simp only [ClassEntry.findProperty?, h]

theorem ClassEntry.findMethod?_congr {a b : String} (h : SameLetters a b) (e : ClassEntry) :
    e.findMethod? a = e.findMethod? b := by
  simp only [ClassEntry.findMethod?, Text.alike_congr h]

namespace CodeBase

variable {cb : CodeBase} {ctx : Context} {m n : Node} {a b : NameSlot}

theorem propertyOf_congr {s t : Except LookupError UnionType} (h : SameType s t)
    (hname : SameSlot SameBare a b) (isStatic : Bool) :
    SameOutcome Eq (cb.propertyOf m s a isStatic) (cb.propertyOf n t b isStatic) := by
  cases hname with
  | computed _ _ => exact .error _ _
  | literal hname =>
    refine memberOf_congr (fun c d hkey => ?_) h
    simp only [findProperty?, ClassEntry.findProperty?_congr hname]
    exact findMember?_congr hkey false _

theorem methodOf_congr {s t : Except LookupError UnionType} (h : SameType s t) {a b : String}
    (hname : SameLetters a b) :
    SameOutcome Eq (cb.methodOf m s a) (cb.methodOf n t b) := by
  refine memberOf_congr (fun c d hkey => ?_) h
  simp only [findMethod?, ClassEntry.findMethod?_congr hname]
  exact findMember?_congr hkey true _

theorem classConstantOf_congr {s t : Except LookupError UnionType} (h : SameType s t)
    (name : NameSlot) :
    SameOutcome Eq (cb.classConstantOf m s name) (cb.classConstantOf n t name) := by
  cases name with
  | computed _ => exact .error _ _
  | literal name => exact memberOf_congr (fun _ _ hkey => findMember?_congr hkey true _) h

theorem classRecords_congr {u v : UnionType} (h : u.Same v) (t : Toggles) :
    (cb.resolver t).classRecords u = (cb.resolver t).classRecords v := by
  have hfind : ∀ c d : ClassName, c.key = d.key →
      cb.index.findClass? c = cb.index.findClass? d :=
    fun _ _ hkey => congrArg (Option.map ClassEntry.decl) (findClass?_congr hkey)
  exact congrArg (List.map _) (filterMap_forall₂ hfind (indexed_congr h.classes))

/-! ## Interchangeable nodes -/

/-- Nodes that have the same type and refer to the same declarations, or that have neither. -/
structure Interchangeable (cb : CodeBase) (ctx : Context) (m n : Node) : Prop where
  type : SameOutcome Eq (cb.typeOf ctx m) (cb.typeOf ctx n)
  targets (t : Toggles) (mode : Mode) :
    SameOutcome Eq ((cb.resolver t).targets mode ctx m) ((cb.resolver t).targets mode ctx n)

theorem interchangeable_property (h : SameType (cb.typeOf ctx m) (cb.typeOf ctx n))
    (hname : SameSlot SameBare a b) (isStatic : Bool) (r q : Range) :
    cb.Interchangeable ctx (.mk (.property isStatic m a) r) (.mk (.property isStatic n b) q) where
  type := by
    rw [typeOf_property, typeOf_property]
    exact (propertyOf_congr h hname isStatic).map_eq _
  targets t mode := by
    rw [targets_property, targets_property]
    exact (propertyOf_congr h hname isStatic).map_eq _

theorem interchangeable_methodCall (h : SameType (cb.typeOf ctx m) (cb.typeOf ctx n))
    (hname : SameSlot SameLetters a b) (isStatic : Bool) (r q : Range) :
    cb.Interchangeable ctx (.mk (.methodCall isStatic m a) r)
      (.mk (.methodCall isStatic n b) q) := by
  cases hname with
  | computed k l =>
    refine ⟨?_, fun t mode => .error _ _⟩
    rw [typeOf, typeOf]
    exact .error _ _
  | literal hname =>
    constructor
    · rw [typeOf_methodCall, typeOf_methodCall]
      exact (methodOf_congr h hname).map_eq _
    · intro t mode
      rw [targets_methodCall, targets_methodCall]
      exact (methodOf_congr h hname).map_eq _

theorem interchangeable_call (h : List.Forall₂ (SameOutcome Eq)
      (cb.functionsOf ctx m (cb.typeOf ctx m)) (cb.functionsOf ctx n (cb.typeOf ctx n)))
    (r q : Range) : cb.Interchangeable ctx (.mk (.call m) r) (.mk (.call n) q) where
  type := by
    rw [typeOf_call, typeOf_call]
    exact (sameOutcome_allOrFirstError h).map_eq _
  targets t mode := by
    rw [targets_call, targets_call]
    exact (sameOutcome_allOrFirstError h).map_eq _

theorem interchangeable_classConstant (h : SameType (cb.typeOf ctx m) (cb.typeOf ctx n))
    (hname : SameSlot SameConstant a b) (r q : Range) :
    cb.Interchangeable ctx (.mk (.classConstant m a) r) (.mk (.classConstant n b) q) := by
  cases hname with
  | computed k l =>
    refine ⟨?_, fun t mode => .error _ _⟩
    rw [typeOf, typeOf]
    exact .error _ _
  | @literal a b hname =>
    constructor
    · rw [typeOf_classConstant, typeOf_classConstant]
      rcases hname with rfl | ⟨ha, hb⟩
      · split
        · exact .ok rfl
        · exact (classConstantOf_congr h _).map_eq _
      · rw [if_pos ha, if_pos hb]
        exact .ok rfl
    · intro t mode
      rw [targets_classConstant, targets_classConstant]
      have hclass : SameOutcome Eq ((cb.typeOf ctx m).map (cb.resolver t).classRecords)
          ((cb.typeOf ctx n).map (cb.resolver t).classRecords) :=
        h.map fun _ _ huv => classRecords_congr huv t
      rcases hname with rfl | ⟨ha, hb⟩
      · split
        · exact hclass
        · exact (classConstantOf_congr h _).map_eq _
      · rw [if_pos ha, if_pos hb]
        exact hclass

/-- A request is given the same records for nodes that refer to the same declarations. -/
theorem resolve_congr {t : Toggles}
    (h : ∀ mode, SameOutcome Eq ((cb.resolver t).targets mode ctx m)
      ((cb.resolver t).targets mode ctx n)) (req : Request) :
    (cb.resolver t).resolve ctx m req = (cb.resolver t).resolve ctx n req := by
  have hrecords : (cb.resolver t).records req.mode ctx m =
      (cb.resolver t).records req.mode ctx n := by
    rw [Resolver.records, Resolver.records]
    have htargets := h req.mode
    generalize (cb.resolver t).targets req.mode ctx m = x at htargets ⊢
    generalize (cb.resolver t).targets req.mode ctx n = y at htargets ⊢
    cases htargets with
    | ok h => rw [h]
    | error e f => rfl
  rw [Resolver.resolve, Resolver.resolve, hrecords]

end CodeBase

end GotoDefinition
