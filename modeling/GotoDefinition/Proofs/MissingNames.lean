import GotoDefinition.Proofs.Scopes
import GotoDefinition.Proofs.Spelling.Names
import GotoDefinition.Proofs.UnionReceiver

/-!
# GotoDefinition.Proofs.MissingNames

What is said of a property or variable that is missing.

The lookup drops the `$`s in front of a name, and a property that is found is named without them. A
failure repeats the name as it is written. So for a name that is written with a `$` it does not say
what the declaration would be called, and the number of `$`s can be told from an answer if and only
if the answer is that the name is missing.

* `memberOf_eq_undeclared_iff` — when a member is missing, and the text that says so.
* `memberOf_describe` — otherwise that text has no part in the answer.
* `missing_as_written` — both for properties, with the like for variables.
* `missing_with_sigils` — a property and a variable whose `$`s are repeated.
-/

namespace GotoDefinition

namespace CodeBase

variable {α : Type} {cb : CodeBase} {ctx : Context} {isStatic : Bool} {receiver : Node}
  {a b : String}

/-! ## Missing members -/

/-- A type that has classes in the index, none of which has the member. Its first class is `c`. -/
def Missing (cb : CodeBase) (find : ClassName → Option α) (type : Except LookupError UnionType)
    (c : ClassName) : Prop :=
  ∃ u, type = .ok u ∧ u.classes.head? = some c ∧ (∃ d ∈ u.classes, cb.hasClass d = true) ∧
    ∀ d ∈ u.classes, cb.hasClass d = true → find d = none

section Members

variable {find : ClassName → Option α} {type : Except LookupError UnionType}
  {describe : ClassName → String} {symbol : String}

theorem symbol_of_firstMember {cs : List ClassName}
    (h : cb.firstMember describe find cs = .error (.undeclared symbol)) :
    ∃ c, cs.head? = some c ∧ symbol = describe c := by
  cases cs with
  | nil => cases h
  | cons c cs =>
    rw [firstMember] at h
    split at h
    · cases h
    · split at h
      · cases h
        exact ⟨c, rfl, rfl⟩
      · cases h

theorem symbol_of_memberOf {u : UnionType}
    (h : cb.memberOf receiver (.ok u) describe find = .error (.undeclared symbol)) :
    ∃ c, u.classes.head? = some c ∧ symbol = describe c := by
  simp only [memberOf, receiverClasses] at h
  cases hclasses : u.classes with
  | nil =>
    rw [hclasses] at h
    cases h
  | cons c cs =>
    rw [hclasses] at h
    exact symbol_of_firstMember h

theorem memberOf_of_missing {c : ClassName} (h : cb.Missing find type c) :
    cb.memberOf receiver type describe find = .error (.undeclared (describe c)) := by
  obtain ⟨u, rfl, hfirst, hnone⟩ := h
  obtain ⟨symbol, hsymbol⟩ := (firstHit_memberOf receiver u describe find).noneHas.mpr hnone
  obtain ⟨d, hd, htext⟩ := symbol_of_memberOf hsymbol
  have hdc : d = c := Option.some.inj (hd.symm.trans hfirst)
  rw [hsymbol, htext, hdc]

/-- A failure to type the receiver is passed on, whatever it is about. -/
theorem memberOf_eq_undeclared_iff :
    cb.memberOf receiver type describe find = .error (.undeclared symbol) ↔
      type = .error (.undeclared symbol) ∨ ∃ c, cb.Missing find type c ∧ symbol = describe c := by
  constructor
  · intro h
    cases type with
    | error e =>
      have he : e = .undeclared symbol := Except.error.inj h
      exact .inl (congrArg Except.error he)
    | ok u =>
      have hnone := (firstHit_memberOf receiver u describe find).noneHas.mp ⟨symbol, h⟩
      obtain ⟨c, hfirst, htext⟩ := symbol_of_memberOf h
      exact .inr ⟨c, ⟨u, rfl, hfirst, hnone⟩, htext⟩
  · rintro (rfl | ⟨c, hmissing, rfl⟩)
    · rfl
    · exact memberOf_of_missing hmissing

theorem memberOf_describe (h : ∀ c, ¬cb.Missing find type c)
    (describe describe' : ClassName → String) :
    cb.memberOf receiver type describe find = cb.memberOf receiver type describe' find := by
  cases type with
  | error e => rfl
  | ok u =>
    simp only [memberOf, receiverClasses]
    cases hclasses : u.classes with
    | nil => rfl
    | cons c cs =>
      dsimp only
      rw [firstMember, firstMember]
      cases hfound : ((c :: cs).filter cb.hasClass).findSome? find with
      | some member => rfl
      | none =>
        have hnone := unanswered_iff.mp ((findSome?_indexed find (c :: cs)).symm.trans hfound)
        have hindexed : ¬(c :: cs).any cb.hasClass = true := by
          intro hany
          refine h c ⟨u, rfl, ?_⟩
          rw [hclasses]
          exact ⟨rfl, List.any_eq_true.mp hany, hnone⟩
        dsimp only
        rw [if_neg hindexed, if_neg hindexed]

end Members

/-! ## Texts -/

theorem undeclared_append_inj (p : String) :
    (.error (.undeclared (p ++ a)) : Except LookupError α) = .error (.undeclared (p ++ b)) ↔
      a = b := by
  rw [Except.error.injEq, LookupError.undeclared.injEq, String.append_right_inj]

/-! ## Properties -/

/-- A property with its name written out, as a node. -/
def access (isStatic : Bool) (receiver : Node) (name : String) (r : Range) : Node :=
  .mk (.property isStatic receiver (.literal name)) r

def MissingProperty (cb : CodeBase) (ctx : Context) (receiver : Node) (isStatic : Bool)
    (name : String) (c : ClassName) : Prop :=
  cb.Missing (cb.findProperty? · name isStatic) (cb.typeOf ctx receiver) c

theorem findProperty?_bare (h : Scope.bare a = Scope.bare b) (c : ClassName) :
    cb.findProperty? c a isStatic = cb.findProperty? c b isStatic := by
  simp only [findProperty?, ClassEntry.findProperty?_congr h]

theorem missingProperty_bare (h : Scope.bare a = Scope.bare b) (c : ClassName) :
    cb.MissingProperty ctx receiver isStatic a c ↔
      cb.MissingProperty ctx receiver isStatic b c := by
  simp only [MissingProperty, findProperty?_bare h]

/-- The text of a property ends with its name. -/
theorem propertyAt_access (name : String) (r : Range) :
    cb.propertyAt ctx (access isStatic receiver name r) isStatic =
      cb.memberOf receiver (cb.typeOf ctx receiver)
        (fun c => (⟨c, name⟩ : MemberName .property).text) (cb.findProperty? · name isStatic) :=
  property_literal cb ctx receiver r name isStatic

theorem typeOf_access (name : String) (r : Range) :
    cb.typeOf ctx (access isStatic receiver name r) =
      (cb.propertyAt ctx (access isStatic receiver name r) isStatic).map PropertyDecl.type := by
  rw [propertyAt_access]
  exact typeOf_property cb ctx r isStatic receiver (.literal name)

theorem propertyAt_eq_undeclared_iff (name symbol : String) (r : Range) :
    cb.propertyAt ctx (access isStatic receiver name r) isStatic = .error (.undeclared symbol) ↔
      cb.typeOf ctx receiver = .error (.undeclared symbol) ∨
        ∃ c, cb.MissingProperty ctx receiver isStatic name c ∧
          symbol = (⟨c, name⟩ : MemberName .property).text := by
  rw [propertyAt_access]
  exact memberOf_eq_undeclared_iff

theorem propertyAt_of_missing {c : ClassName} (h : cb.MissingProperty ctx receiver isStatic a c)
    (r : Range) :
    cb.propertyAt ctx (access isStatic receiver a r) isStatic =
      .error (.undeclared (c.text ++ "::$" ++ a)) := by
  rw [propertyAt_access]
  exact memberOf_of_missing h

theorem propertyAt_bare (h : Scope.bare a = Scope.bare b)
    (hfound : ∀ c, ¬cb.MissingProperty ctx receiver isStatic a c) (r q : Range) :
    cb.propertyAt ctx (access isStatic receiver a r) isStatic =
      cb.propertyAt ctx (access isStatic receiver b q) isStatic := by
  rw [propertyAt_access, propertyAt_access]
  simp only [← findProperty?_bare h]
  exact memberOf_describe hfound _ _

/-- A missing property is reported alike for two spellings only if they are one. This holds for
whatever is read off a property that is found. -/
theorem propertyAt_map_eq_iff {β : Type} (f : PropertyDecl → β) (h : Scope.bare a = Scope.bare b)
    (r q : Range) :
    (cb.propertyAt ctx (access isStatic receiver a r) isStatic).map f =
        (cb.propertyAt ctx (access isStatic receiver b q) isStatic).map f ↔
      a = b ∨ ∀ c, ¬cb.MissingProperty ctx receiver isStatic a c := by
  by_cases hfound : ∀ c, ¬cb.MissingProperty ctx receiver isStatic a c
  · have hsame := propertyAt_bare h hfound r q
    exact iff_of_true (congrArg _ hsame) (.inr hfound)
  · rw [or_iff_left hfound]
    rw [not_forall_not] at hfound
    obtain ⟨c, hmissing⟩ := hfound
    have hmissing' := (missingProperty_bare h c).mp hmissing
    rw [propertyAt_of_missing hmissing, propertyAt_of_missing hmissing']
    exact undeclared_append_inj _

theorem propertyAt_eq_iff (h : Scope.bare a = Scope.bare b) (r q : Range) :
    cb.propertyAt ctx (access isStatic receiver a r) isStatic =
        cb.propertyAt ctx (access isStatic receiver b q) isStatic ↔
      a = b ∨ ∀ c, ¬cb.MissingProperty ctx receiver isStatic a c := by
  rw [← propertyAt_map_eq_iff id h r q, Except.map_id, id, id]

theorem typeOf_access_eq_iff (h : Scope.bare a = Scope.bare b) (r q : Range) :
    cb.typeOf ctx (access isStatic receiver a r) = cb.typeOf ctx (access isStatic receiver b q) ↔
      a = b ∨ ∀ c, ¬cb.MissingProperty ctx receiver isStatic a c := by
  rw [typeOf_access, typeOf_access]
  exact propertyAt_map_eq_iff PropertyDecl.type h r q

/-! ## Variables -/

/-- A variable with its name written out, as a node. -/
def mention (name : String) (r : Range) : Node :=
  .mk (.variable (.literal name)) r

theorem typeOf_mention (name : String) (r : Range) :
    cb.typeOf ctx (mention name r) =
      match ctx.findVariable? name with
      | none => .error (.undeclared ("$" ++ name))
      | some v => .ok v.type := by
  rw [mention, typeOf]
  rfl

theorem typeOf_mention_eq_undeclared_iff (name symbol : String) (r : Range) :
    cb.typeOf ctx (mention name r) = .error (.undeclared symbol) ↔
      ctx.findVariable? name = none ∧ symbol = "$" ++ name := by
  rw [typeOf_mention]
  cases ctx.findVariable? name with
  | none => simp [eq_comm]
  | some v => simp

theorem typeOf_mention_eq_iff (h : Scope.bare a = Scope.bare b) (r q : Range) :
    cb.typeOf ctx (mention a r) = cb.typeOf ctx (mention b q) ↔
      a = b ∨ (ctx.findVariable? a).isSome = true := by
  rw [typeOf_mention, typeOf_mention, ← ctx.findVariable?_congr h]
  cases ctx.findVariable? a with
  | none => simp
  | some v => simp

/-! ## Names as they are written -/

namespace Sigils

/-- A class without properties. -/
def user : ClassEntry :=
  ⟨Name.ofText "App\\User", .ordinary, ⟨"file:///src/User.php"⟩, 1, none, [], [], [], [], []⟩

def codeBase : CodeBase :=
  ofSnapshot ⟨[user], [], []⟩

def userType : UnionType :=
  UnionType.ofList [.instanceOf user.name]

def context : Context :=
  Context.empty.withVariable (Variable.named "u" userType)

def someone : Node :=
  Node.variableNamed "u"

theorem missing (name : String) :
    codeBase.MissingProperty context someone false name user.name := by
  have htype : codeBase.typeOf context someone = .ok userType :=
    eq_ok_of_toOption (by decide +kernel)
  refine ⟨userType, htype, rfl, ⟨user.name, by decide +kernel, by decide +kernel⟩, ?_⟩
  intro d hd _
  have hd' : d = user.name := List.mem_singleton.mp hd
  rw [hd']
  exact findMember?_alone (e := user) (by decide +kernel) rfl _

end Sigils

/-- A property that is missing is reported in the first class of the receiver, and a variable that
is missing behind a `$`, each under its name as it is written, with the `$`s in front. The report
has the form of a declared name if and only if the name is written without `$`. Spellings of one
name with more or fewer `$`s in front have the same answer, be it a declaration, a type or a
failure, if and only if the property or variable is not missing. -/
theorem missing_as_written (cb : CodeBase) (ctx : Context) (isStatic : Bool) (receiver : Node)
    (r q : Range) :
    (∀ a symbol,
      cb.propertyAt ctx (access isStatic receiver a r) isStatic = .error (.undeclared symbol) ↔
        cb.typeOf ctx receiver = .error (.undeclared symbol) ∨
          ∃ c, cb.MissingProperty ctx receiver isStatic a c ∧
            symbol = (⟨c, a⟩ : MemberName .property).text) ∧
    (∀ a c, cb.MissingProperty ctx receiver isStatic a c →
      (cb.propertyAt ctx (access isStatic receiver a r) isStatic =
          .error (.undeclared (⟨c, Scope.bare a⟩ : MemberName .property).text) ↔
        a = Scope.bare a)) ∧
    (∀ a b, Scope.bare a = Scope.bare b →
      (cb.propertyAt ctx (access isStatic receiver a r) isStatic =
          cb.propertyAt ctx (access isStatic receiver b q) isStatic ↔
        a = b ∨ ∀ c, ¬cb.MissingProperty ctx receiver isStatic a c) ∧
      (cb.typeOf ctx (access isStatic receiver a r) =
          cb.typeOf ctx (access isStatic receiver b q) ↔
        a = b ∨ ∀ c, ¬cb.MissingProperty ctx receiver isStatic a c)) ∧
    (∀ a symbol, cb.typeOf ctx (mention a r) = .error (.undeclared symbol) ↔
      ctx.findVariable? a = none ∧ symbol = "$" ++ a) ∧
    (∀ a, ctx.findVariable? a = none →
      (cb.typeOf ctx (mention a r) = .error (.undeclared ("$" ++ Scope.bare a)) ↔
        a = Scope.bare a)) ∧
    ∀ a b, Scope.bare a = Scope.bare b →
      (cb.typeOf ctx (mention a r) = cb.typeOf ctx (mention b q) ↔
        a = b ∨ (ctx.findVariable? a).isSome = true) := by
  refine ⟨?_, ?_, ?_, ?_, ?_, ?_⟩
  · intro a symbol
    exact propertyAt_eq_undeclared_iff a symbol r
  · intro a c hmissing
    rw [propertyAt_of_missing hmissing]
    exact undeclared_append_inj _
  · intro a b h
    exact ⟨propertyAt_eq_iff h r q, typeOf_access_eq_iff h r q⟩
  · intro a symbol
    exact typeOf_mention_eq_undeclared_iff a symbol r
  · intro a hnone
    rw [typeOf_mention_eq_undeclared_iff]
    simp [hnone, eq_comm]
  · intro a b h
    exact typeOf_mention_eq_iff h r q

open Sigils in
/-- The `$`s of a variable that is there do not show, those of a missing property do. -/
theorem missing_as_written_user :
    Scope.bare "$$u" = Scope.bare "u" ∧
    codeBase.typeOf context (mention "$$u" Range.zero) =
      codeBase.typeOf context (mention "u" Range.zero) ∧
    codeBase.MissingProperty context someone false "$name" user.name ∧
    codeBase.propertyAt context (access false someone "$name" Range.zero) false ≠
      codeBase.propertyAt context (access false someone "name" Range.zero) false := by
  have hbare : Scope.bare "$$u" = Scope.bare "u" := by decide +kernel
  have hname : Scope.bare "$name" = Scope.bare "name" := by decide +kernel
  obtain ⟨_, _, hproperty, _, _, hvariable⟩ :=
    missing_as_written codeBase context false someone Range.zero Range.zero
  refine ⟨hbare, (hvariable "$$u" "u" hbare).mpr (.inr (by decide +kernel)), missing "$name", ?_⟩
  rw [Ne, (hproperty "$name" "name" hname).1]
  rintro (hsame | hfound)
  · revert hsame
    decide
  · exact hfound user.name (missing "$name")

open Sigils in
/-- The report of a property has two `$`s, the one that was written and the one that stands in front
of the name of a property, and that of a variable too. Written without `$` they have one each. -/
theorem missing_with_sigils :
    codeBase.propertyAt context (access false someone "$name" Range.zero) false =
      .error (.undeclared "\\App\\User::$$name") ∧
    codeBase.propertyAt context (access false someone "name" Range.zero) false =
      .error (.undeclared "\\App\\User::$name") ∧
    (⟨user.name, Scope.bare "$name"⟩ : MemberName .property).text = "\\App\\User::$name" ∧
    codeBase.typeOf context (mention "$missing" Range.zero) = .error (.undeclared "$$missing") ∧
    codeBase.typeOf context (mention "missing" Range.zero) = .error (.undeclared "$missing") ∧
    Scope.bare "$missing" = "missing" := by
  refine ⟨?_, ?_, by decide +kernel, ?_, ?_, by decide +kernel⟩
  · rw [propertyAt_eq_undeclared_iff]
    exact .inr ⟨user.name, missing "$name", by decide +kernel⟩
  · rw [propertyAt_eq_undeclared_iff]
    exact .inr ⟨user.name, missing "name", by decide +kernel⟩
  · rw [typeOf_mention_eq_undeclared_iff]
    decide +kernel
  · rw [typeOf_mention_eq_undeclared_iff]
    decide +kernel

end CodeBase

end GotoDefinition
