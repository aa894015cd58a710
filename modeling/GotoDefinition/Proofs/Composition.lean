import GotoDefinition.Proofs.Receiver

/-!
# GotoDefinition.Proofs.Composition

The type of an expression can be computed from the types of its parts.

A `Frame` is a node without its receiver or callee, and frames around each other are an expression
with a hole. Whatever has the same type can be put into the hole: the whole has the same type and
refers to the same declarations. Only a name that is called directly is looked at as a name.

* `Frame.interchangeable` — one frame around two nodes of one type.
* `surround_congr` — any number of frames.
-/

namespace GotoDefinition

/-- A node with a hole in the place of its receiver or callee. -/
inductive Frame where
  | property (isStatic : Bool) (name : NameSlot) (range : Range)
  | methodCall (isStatic : Bool) (name : NameSlot) (range : Range)
  | call (range : Range)
  | classConstant (name : NameSlot) (range : Range)

namespace Frame

def fill : Frame → Node → Node
  | .property isStatic name range, e => .mk (.property isStatic e name) range
  | .methodCall isStatic name range, e => .mk (.methodCall isStatic e name) range
  | .call range, e => .mk (.call e) range
  | .classConstant name range, e => .mk (.classConstant e name) range

/-- Whether the hole is the callee of a call. -/
def isCall : Frame → Bool
  | .property _ _ _ => false
  | .methodCall _ _ _ => false
  | .call _ => true
  | .classConstant _ _ => false

/-- Puts a node into the first frame, that into the second, and so on. -/
def surround (fs : List Frame) (e : Node) : Node :=
  fs.foldl (fun n f => f.fill n) e

/-- A filled frame is no bare name. -/
theorem fill_ne_classRef (f : Frame) (e : Node) (name : String) :
    (f.fill e).shape ≠ .classRef name := by
  cases f <;> exact nofun

/-! ## Filling holes -/

variable {cb : CodeBase} {ctx : Context} {e₁ e₂ : Node}

theorem interchangeable (f : Frame) (h : SameType (cb.typeOf ctx e₁) (cb.typeOf ctx e₂))
    (hcall : f.isCall = true →
      (∀ name, e₁.shape ≠ .classRef name) ∧ ∀ name, e₂.shape ≠ .classRef name) :
    cb.Interchangeable ctx (f.fill e₁) (f.fill e₂) := by
  cases f with
  | property isStatic name range =>
    exact CodeBase.interchangeable_property h (.refl SameBare.refl name) isStatic range range
  | methodCall isStatic name range =>
    exact CodeBase.interchangeable_methodCall h (.refl SameLetters.refl name) isStatic range range
  | call range =>
    obtain ⟨h₁, h₂⟩ := hcall rfl
    exact CodeBase.interchangeable_call (CodeBase.functionsOf_congr h₁ h₂ h) range range
  | classConstant name range =>
    exact CodeBase.interchangeable_classConstant h (.refl SameConstant.refl name) range range

/-- The frames further out see filled frames, which are never bare names. -/
theorem interchangeable_surround (f : Frame) (fs : List Frame)
    (h : SameType (cb.typeOf ctx e₁) (cb.typeOf ctx e₂))
    (hcall : f.isCall = true →
      (∀ name, e₁.shape ≠ .classRef name) ∧ ∀ name, e₂.shape ≠ .classRef name) :
    cb.Interchangeable ctx (surround (f :: fs) e₁) (surround (f :: fs) e₂) := by
  have hfilled := f.interchangeable h hcall
  induction fs generalizing f e₁ e₂ with
  | nil => exact hfilled
  | cons g gs ih =>
    have hnames : g.isCall = true →
        (∀ name, (f.fill e₁).shape ≠ .classRef name) ∧
          ∀ name, (f.fill e₂).shape ≠ .classRef name :=
      fun _ => ⟨f.fill_ne_classRef e₁, f.fill_ne_classRef e₂⟩
    exact ih g hfilled.type.sameType hnames (g.interchangeable hfilled.type.sameType hnames)

end Frame

namespace CodeBase

/-- Two expressions of the same type can replace each other as the receiver of members, of calls
and of constants, at any depth: the whole has the same type, if any, and is resolved to the same
records. A name that is called directly is the exception, for it is a function and no class. -/
theorem surround_congr (cb : CodeBase) (ctx : Context) {e₁ e₂ : Node} {u v : UnionType}
    (h₁ : cb.typeOf ctx e₁ = .ok u) (h₂ : cb.typeOf ctx e₂ = .ok v) (huv : u.same v = true)
    (f : Frame) (fs : List Frame)
    (hcall : f.isCall = true →
      (∀ name, e₁.shape ≠ .classRef name) ∧ ∀ name, e₂.shape ≠ .classRef name) :
    (∀ w, cb.typeOf ctx (Frame.surround (f :: fs) e₁) = .ok w ↔
      cb.typeOf ctx (Frame.surround (f :: fs) e₂) = .ok w) ∧
    ∀ t req, (cb.resolver t).resolve ctx (Frame.surround (f :: fs) e₁) req =
      (cb.resolver t).resolve ctx (Frame.surround (f :: fs) e₂) req := by
  have htype : SameType (cb.typeOf ctx e₁) (cb.typeOf ctx e₂) := by
    rw [h₁, h₂]
    exact .ok huv
  have hwhole := Frame.interchangeable_surround f fs htype hcall
  exact ⟨hwhole.type.eq_ok_iff, fun t req => resolve_congr (hwhole.targets t) req⟩

/-! ## A chain of members -/

namespace Blog

def sources : Url :=
  ⟨"file:///src/blog.php"⟩

def instanceOf (name : String) : UnionType :=
  UnionType.ofList [.instanceOf (Name.ofText name)]

/-- `function latest(): Post` of a user. -/
def latest : MethodEntry :=
  ⟨"latest", 4, false, instanceOf "Post"⟩

/-- `User $author` of a post. -/
def author : PropertyEntry :=
  ⟨"$author", 9, false, instanceOf "User"⟩

def user : ClassEntry :=
  ⟨Name.ofText "User", .ordinary, sources, 2, none, [], [], [], [latest], []⟩

def post : ClassEntry :=
  ⟨Name.ofText "Post", .ordinary, sources, 7, none, [], [], [author], [], []⟩

def codeBase : CodeBase :=
  ofSnapshot ⟨[user, post], [], []⟩

/-- The variable `$u` holds a `USER`. -/
def context : Context :=
  Context.empty.withVariable (.named "u" (instanceOf "USER"))

/-- `…->latest()->author->latest()` -/
def innermost : Frame :=
  .methodCall false (.literal "latest") Range.zero

def outer : List Frame :=
  [.property false (.literal "author") Range.zero, .methodCall false (.literal "latest") Range.zero]

theorem findClass?_user : codeBase.findClass? (Name.ofText "user") = some user := by
  decide +kernel

theorem findClass?_post : codeBase.findClass? (Name.ofText "Post") = some post := by
  decide +kernel

theorem methodOf_latest (n : Node) (name : String)
    (h : codeBase.findClass? (Name.ofText name) = some user) :
    codeBase.methodOf n (.ok (instanceOf name)) "latest" =
      .ok ⟨⟨user.name, "latest"⟩, false, instanceOf "Post", Location.atLine sources 4⟩ :=
  methodOf_instance h (by decide +kernel) n

theorem propertyOf_author (n : Node) :
    codeBase.propertyOf n (.ok (instanceOf "Post")) (.literal "author") false =
      .ok ⟨⟨post.name, "author"⟩, false, instanceOf "User", Location.atLine sources 9⟩ :=
  propertyOf_instance findClass?_post (by decide +kernel) n

end Blog

open Blog in
/-- A variable and a class that spell the type `User` in two ways lead to the same method. -/
theorem surround_congr_blog :
    codeBase.typeOf context (Node.variableNamed "u") = .ok (instanceOf "USER") ∧
    codeBase.typeOf context (Node.classRef "user") = .ok (instanceOf "user") ∧
    (instanceOf "USER").same (instanceOf "user") = true ∧
    codeBase.typeOf context (Frame.surround (innermost :: outer) (Node.variableNamed "u")) =
      .ok (instanceOf "Post") ∧
    ((codeBase.resolver Toggles.all).resolve context
        (Frame.surround (innermost :: outer) (Node.variableNamed "u"))
        (Request.start .definition)).records =
      [.declaration (.method ⟨⟨user.name, "latest"⟩, false, instanceOf "Post",
        Location.atLine sources 4⟩) true] := by
  have hvariable : codeBase.typeOf context (Node.variableNamed "u") = .ok (instanceOf "USER") :=
    eq_ok_of_toOption (by decide +kernel)
  have hclass : codeBase.typeOf context (Node.classRef "user") = .ok (instanceOf "user") :=
    eq_ok_of_toOption (by decide +kernel)
  have hsame : (instanceOf "USER").same (instanceOf "user") = true := by decide +kernel
  obtain ⟨htype, hresolve⟩ :=
    surround_congr codeBase context hvariable hclass hsame innermost outer nofun
  -- The class is followed through the three frames, from the inside.
  let first : Node := .mk (.methodCall false (Node.classRef "user") (.literal "latest")) Range.zero
  let second : Node := .mk (.property false first (.literal "author")) Range.zero
  have hfirst : codeBase.typeOf context first = .ok (instanceOf "Post") := by
    rw [typeOf_methodCall, hclass, methodOf_latest _ "user" findClass?_user]
    rfl
  have hsecond : codeBase.typeOf context second = .ok (instanceOf "User") := by
    rw [typeOf_property, hfirst, propertyOf_author]
    rfl
  have hfound : codeBase.methodOf second (codeBase.typeOf context second) "latest" =
      .ok ⟨⟨user.name, "latest"⟩, false, instanceOf "Post", Location.atLine sources 4⟩ := by
    rw [hsecond]
    exact methodOf_latest _ "User" (by decide +kernel)
  have hwhole : Frame.surround (innermost :: outer) (Node.classRef "user") =
      .mk (.methodCall false second (.literal "latest")) Range.zero := rfl
  rw [hresolve, hwhole]
  refine ⟨hvariable, hclass, hsame, (htype _).mpr ?_, ?_⟩
  · rw [hwhole, typeOf_methodCall, hfound]
    rfl
  · refine (Resolver.contribution_eq_records _ .definition (context, _)).trans ?_
    apply Resolver.records_of_targets rfl
    rw [targets_methodCall, hfound]
    rfl

end CodeBase

end GotoDefinition
