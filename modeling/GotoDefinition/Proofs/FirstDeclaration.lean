import GotoDefinition.Proofs.Hierarchy.Collects
import GotoDefinition.Proofs.Targets

/-!
# GotoDefinition.Proofs.FirstDeclaration

Of several declarations of a name the first counts, and nothing else about a snapshot does.

All that a code base is asked goes back to three questions: for the class, the function and the
constant of a name. Code bases that answer these alike answer everything alike (`SameEntries`), and
a snapshot answers them with its first entry of the name.

* `CodeBase.SameEntries.types`, `members`, `index` — the same oracles.
* `Rearranged.find?_eq` — entries of different names may change places, and later entries of a
  name may come and go.
* `CodeBase.first_declarations_count` — snapshots with the same first entries are interchangeable.
-/

namespace GotoDefinition

namespace CodeBase

/-! ## Code bases that find the same -/

/-- Both find the same under every name. -/
structure SameEntries (A B : CodeBase) : Prop where
  classes : ∀ c, A.findClass? c = B.findClass? c
  functions : ∀ f, A.findFunction? f = B.findFunction? f
  constants : ∀ c, A.findConstant? c = B.findConstant? c

namespace SameEntries

variable {A B : CodeBase} (h : SameEntries A B)

include h

theorem hasClass : A.hasClass = B.hasClass := by
  funext c
  rw [CodeBase.hasClass, CodeBase.hasClass, h.classes]

theorem index : A.index = B.index := by
  simp only [CodeBase.index, h.hasClass, h.classes]

/-! ### Members of classes -/

theorem findMember? {α : Type} (withInterfaces : Bool) (c : ClassName)
    (pick : ClassEntry → Option α) :
    A.findMember? withInterfaces c pick = B.findMember? withInterfaces c pick := by
  have hlineage : A.lineage withInterfaces c = B.lineage withInterfaces c :=
    lineage_transfer (h.classes c) fun _ _ d _ => h.classes d
  rw [CodeBase.findMember?, CodeBase.findMember?, hlineage]

theorem findProperty? : A.findProperty? = B.findProperty? := by
  funext c name isStatic
  exact h.findMember? false c _

theorem findMethod? : A.findMethod? = B.findMethod? := by
  funext c name
  exact h.findMember? true c _

theorem findClassConstant? : A.findClassConstant? = B.findClassConstant? := by
  funext c name
  exact h.findMember? true c _

theorem memberOf {α : Type} (receiver : Node) (type : Except LookupError UnionType)
    (describe : ClassName → String) (find : ClassName → Option α) :
    A.memberOf receiver type describe find = B.memberOf receiver type describe find := by
  have hfirst : A.firstMember describe find = B.firstMember describe find := by
    funext cs
    cases cs with
    | nil => rfl
    | cons c cs => rw [firstMember, firstMember, h.hasClass]
  rw [CodeBase.memberOf, CodeBase.memberOf, hfirst]

theorem propertyOf : A.propertyOf = B.propertyOf := by
  funext receiver type name isStatic
  simp only [CodeBase.propertyOf, h.findProperty?, h.memberOf]

theorem methodOf : A.methodOf = B.methodOf := by
  funext receiver type name
  simp only [CodeBase.methodOf, h.findMethod?, h.memberOf]

theorem classConstantOf : A.classConstantOf = B.classConstantOf := by
  funext receiver type name
  simp only [CodeBase.classConstantOf, h.findClassConstant?, h.memberOf]

/-! ### Names in a context -/

theorem namedType : A.namedType = B.namedType := by
  funext ctx name
  simp only [CodeBase.namedType, h.classes]

theorem namedConstant : A.namedConstant = B.namedConstant := by
  funext ctx name
  simp only [CodeBase.namedConstant, h.constants]

theorem functionsOf : A.functionsOf = B.functionsOf := by
  funext ctx callee type
  simp only [CodeBase.functionsOf, closureFunctions, namedFunction, h.functions]

/-! ### Oracles -/

theorem typeOf (ctx : Context) (n : Node) : A.typeOf ctx n = B.typeOf ctx n := by
  induction n using Node.induction with
  | step n ih =>
    obtain ⟨shape, r⟩ := n
    cases shape with
    | classRef name => rw [CodeBase.typeOf, CodeBase.typeOf, h.namedType]
    | property isStatic receiver name =>
      rw [typeOf_property, typeOf_property, ih receiver rfl, h.propertyOf]
    | methodCall isStatic receiver name =>
      cases name with
      | computed m => rfl
      | literal name => rw [typeOf_methodCall, typeOf_methodCall, ih receiver rfl, h.methodOf]
    | call callee => rw [CodeBase.typeOf, CodeBase.typeOf, ih callee rfl, h.functionsOf]
    | classConstant receiver name =>
      cases name with
      | computed m => rfl
      | literal name =>
        rw [typeOf_classConstant, typeOf_classConstant, ih receiver rfl, h.classConstantOf]
    | constantRef name => rw [CodeBase.typeOf, CodeBase.typeOf, h.namedConstant]
    | «variable» name => rfl
    | other => rfl

theorem types : A.types = B.types := by
  have htype : A.typeOf = B.typeOf := funext fun ctx => funext fun n => h.typeOf ctx n
  rw [CodeBase.types, CodeBase.types, htype]

theorem members : A.members = B.members := by
  have hproperty : A.propertyAt = B.propertyAt := by
    funext ctx n isStatic
    simp only [propertyAt, h.propertyOf, h.typeOf]
  have hmethod : A.methodAt = B.methodAt := by
    funext ctx n name isStatic
    simp only [methodAt, h.methodOf, h.typeOf]
  have hclassConstant : A.classConstantAt = B.classConstantAt := by
    funext ctx n
    simp only [classConstantAt, h.classConstantOf, h.typeOf]
  have hconstant : A.constantAt = B.constantAt := by
    funext ctx n
    simp only [constantAt, h.namedConstant]
  have hfunctions : A.functionsAt = B.functionsAt := by
    funext ctx n
    simp only [functionsAt, h.functionsOf, h.typeOf]
  simp only [CodeBase.members, hproperty, hmethod, hclassConstant, hconstant, hfunctions]

theorem resolver (t : Toggles) : A.resolver t = B.resolver t := by
  rw [CodeBase.resolver, CodeBase.resolver, h.types, h.index, h.members]

end SameEntries

end CodeBase

/-! ## First entries of a snapshot -/

namespace Snapshot

def firstClass? (s : Snapshot) (c : ClassName) : Option ClassEntry :=
  s.classes.find? fun e => Text.alike e.name.text c.text

def firstFunction? (s : Snapshot) (f : FunctionName) : Option FunctionEntry :=
  s.functions.find? fun e => Text.alike e.name.text f.text

/-- Constants are named in one spelling. -/
def firstConstant? (s : Snapshot) (c : ConstantName) : Option ConstantEntry :=
  s.constants.find? fun e => e.name.text == c.text

/-- Of every name both snapshots have the same first entry, or neither has one. -/
structure SameFirst (s t : Snapshot) : Prop where
  classes : ∀ c, s.firstClass? c = t.firstClass? c
  functions : ∀ f, s.firstFunction? f = t.firstFunction? f
  constants : ∀ c, s.firstConstant? c = t.firstConstant? c

end Snapshot

/-- A table finds the first item whose name is the same. -/
theorem Index.find?_ofList_key {α : Type} {kind : NameKind} (name : α → Name kind) (as : List α)
    (n : Name kind) :
    (ofList as : Index fun a => (name a).key).find? n.key =
      as.find? fun a => (name a).same n := by
  have hsame : (fun a => (name a).key == n.key) = fun a => (name a).same n := by
    funext a
    rw [Bool.eq_iff_iff, beq_iff_eq, Name.same_iff]
  rw [find?_ofList, hsame]

namespace CodeBase

variable {s t : Snapshot}

theorem findClass?_ofSnapshot (s : Snapshot) (c : ClassName) :
    (ofSnapshot s).findClass? c = s.firstClass? c :=
  Index.find?_ofList_key ClassEntry.name s.classes c

theorem findFunction?_ofSnapshot (s : Snapshot) (f : FunctionName) :
    (ofSnapshot s).findFunction? f = (s.firstFunction? f).map FunctionEntry.decl :=
  congrArg (Option.map FunctionEntry.decl)
    (Index.find?_ofList_key FunctionEntry.name s.functions f)

theorem findConstant?_ofSnapshot (s : Snapshot) (c : ConstantName) :
    (ofSnapshot s).findConstant? c = (s.firstConstant? c).map ConstantEntry.decl :=
  congrArg (Option.map ConstantEntry.decl)
    (Index.find?_ofList_key ConstantEntry.name s.constants c)

theorem sameEntries_ofSnapshot (h : s.SameFirst t) :
    SameEntries (ofSnapshot s) (ofSnapshot t) where
  classes c := by rw [findClass?_ofSnapshot, findClass?_ofSnapshot, h.classes]
  functions f := by rw [findFunction?_ofSnapshot, findFunction?_ofSnapshot, h.functions]
  constants c := by rw [findConstant?_ofSnapshot, findConstant?_ofSnapshot, h.constants]

end CodeBase

/-! ## Rearranging entries -/

/-- Lists of entries that come out of each other when neighbours of different names change places
and later entries of a name are added or left out. -/
inductive Rearranged {α : Type} {kind : NameKind} (name : α → Name kind) :
    List α → List α → Prop where
  | refl (as : List α) : Rearranged name as as
  | cons (a : α) {as bs : List α} (h : Rearranged name as bs) :
      Rearranged name (a :: as) (a :: bs)
  | swap {a b : α} (hdifferent : (name a).same (name b) = false) (as : List α) :
      Rearranged name (a :: b :: as) (b :: a :: as)
  | again {a b : α} (hsame : (name a).same (name b) = true) (as bs : List α) :
      Rearranged name (a :: as ++ b :: bs) (a :: as ++ bs)
  | symm {as bs : List α} (h : Rearranged name as bs) : Rearranged name bs as
  | trans {as bs cs : List α} (h₁ : Rearranged name as bs) (h₂ : Rearranged name bs cs) :
      Rearranged name as cs

/-- Each step keeps the first entry of every name. -/
theorem Rearranged.find?_eq {α : Type} {kind : NameKind} {name : α → Name kind} {as bs : List α}
    (h : Rearranged name as bs) (n : Name kind) :
    as.find? (fun a => (name a).same n) = bs.find? fun a => (name a).same n := by
  induction h with
  | refl as => rfl
  | cons a _ ih => rw [List.find?_cons, List.find?_cons, ih]
  | @swap a b hdifferent as =>
    cases ha : (name a).same n with
    | false => simp only [List.find?_cons, ha]
    | true =>
      have hb : (name b).same n = false := by
        rw [Bool.eq_false_iff, Ne, Name.same_iff, ← Name.same_iff.mp ha, ← Name.same_iff,
          Name.same_comm, hdifferent]
        exact Bool.false_ne_true
      simp only [List.find?_cons, ha, hb]
  | @again a b hsame as bs =>
    cases ha : (name a).same n with
    | true => simp only [List.cons_append, List.find?_cons, ha]
    | false =>
      have hb : (name b).same n = false := by
        rw [Bool.eq_false_iff, Ne, Name.same_iff, ← Name.same_iff.mp hsame, ← Name.same_iff, ha]
        exact Bool.false_ne_true
      simp only [List.cons_append, List.find?_cons, List.find?_append, ha, hb]
  | symm _ ih => exact ih.symm
  | trans _ _ ih₁ ih₂ => exact ih₁.trans ih₂

theorem Snapshot.sameFirst_of_rearranged {s t : Snapshot}
    (hclasses : Rearranged ClassEntry.name s.classes t.classes)
    (hfunctions : Rearranged FunctionEntry.name s.functions t.functions)
    (hconstants : Rearranged ConstantEntry.name s.constants t.constants) : s.SameFirst t :=
  ⟨fun c => hclasses.find?_eq c, fun f => hfunctions.find?_eq f, fun c => hconstants.find?_eq c⟩

namespace CodeBase

/-- A snapshot answers for a name with its first entry of that name, or with nothing. Snapshots that
agree on these answer every lookup of a member and every question to an oracle alike, and leave
every request with the same records and the same response. -/
theorem first_declarations_count :
    (∀ s : Snapshot,
      (∀ c, (ofSnapshot s).findClass? c = s.firstClass? c ∧
        (ofSnapshot s).index.findClass? c = (s.firstClass? c).map ClassEntry.decl ∧
        (ofSnapshot s).index.hasClass c = (s.firstClass? c).isSome) ∧
      (∀ f, (ofSnapshot s).findFunction? f = (s.firstFunction? f).map FunctionEntry.decl) ∧
      ∀ c, (ofSnapshot s).findConstant? c = (s.firstConstant? c).map ConstantEntry.decl) ∧
    ∀ s t : Snapshot, s.SameFirst t →
      ((ofSnapshot s).findProperty? = (ofSnapshot t).findProperty? ∧
        (ofSnapshot s).findMethod? = (ofSnapshot t).findMethod? ∧
        (ofSnapshot s).findClassConstant? = (ofSnapshot t).findClassConstant?) ∧
      ((ofSnapshot s).types = (ofSnapshot t).types ∧
        (ofSnapshot s).index = (ofSnapshot t).index ∧
        (ofSnapshot s).members = (ofSnapshot t).members) ∧
      ∀ toggles req calls,
        ((ofSnapshot s).resolver toggles).resolveAll req calls =
            ((ofSnapshot t).resolver toggles).resolveAll req calls ∧
          (((ofSnapshot s).resolver toggles).resolveAll req calls).response (ofSnapshot s).index =
            (((ofSnapshot t).resolver toggles).resolveAll req calls).response
              (ofSnapshot t).index := by
  refine ⟨fun s => ⟨fun c => ?_, findFunction?_ofSnapshot s, findConstant?_ofSnapshot s⟩,
    fun s t hfirst => ?_⟩
  · simp only [index, hasClass, findClass?_ofSnapshot, and_self]
  · have h := sameEntries_ofSnapshot hfirst
    refine ⟨⟨h.findProperty?, h.findMethod?, h.findClassConstant?⟩,
      ⟨h.types, h.index, h.members⟩, fun toggles req calls => ?_⟩
    rw [h.resolver, h.index]
    exact ⟨rfl, rfl⟩

/-! ## A snapshot with names declared twice -/

namespace Reordered

def animal : ClassEntry :=
  ⟨Name.ofText "Animal", .ordinary, ⟨"file:///src/animal.php"⟩, 3, none, [], [], [], [], []⟩

/-- A class of the same name in another file. -/
def oldAnimal : ClassEntry :=
  ⟨Name.ofText "ANIMAL", .ordinary, ⟨"file:///old/animal.php"⟩, 7, none, [], [], [], [], []⟩

def zebra : ClassEntry :=
  ⟨Name.ofText "Zebra", .ordinary, ⟨"file:///src/zebra.php"⟩, 5, some animal.name,
    [], [], [], [], []⟩

/-- `hunt(): Zebra`. -/
def hunt : FunctionEntry :=
  ⟨Name.ofText "hunt", ⟨"file:///src/animal.php"⟩, 12, UnionType.ofList [.instanceOf zebra.name]⟩

def feed : FunctionEntry :=
  ⟨Name.ofText "feed", ⟨"file:///src/animal.php"⟩, 16, UnionType.empty⟩

/-- A function of the same name that returns something else. -/
def oldHunt : FunctionEntry :=
  ⟨Name.ofText "Hunt", ⟨"file:///old/animal.php"⟩, 9, UnionType.ofList [.native .bool]⟩

def limit : ConstantEntry :=
  ⟨Name.ofText "LIMIT", ⟨"file:///src/constants.php"⟩, 1⟩

/-- A constant of its own, for constants are told apart by case. -/
def smallLimit : ConstantEntry :=
  ⟨Name.ofText "limit", ⟨"file:///src/constants.php"⟩, 2⟩

def snapshot : Snapshot :=
  ⟨[animal, zebra, oldAnimal], [hunt, feed, oldHunt], [limit, smallLimit]⟩

def rearranged : Snapshot :=
  ⟨[zebra, animal], [feed, hunt], [smallLimit, limit]⟩

/-- `animal` and `HUNT()`. -/
def calls : List (Context × Node) :=
  [(Context.empty, Node.classRef "animal"),
    (Context.empty, Node.call (Node.constantRef "HUNT"))]

end Reordered

open Reordered in
/-- Only the first of the two animals and the first way to hunt are ever seen. -/
theorem first_declarations_count_reordered :
    snapshot.SameFirst rearranged ∧
      (ofSnapshot snapshot).findClass? oldAnimal.name = some animal ∧
      (ofSnapshot snapshot).findFunction? oldHunt.name =
        some ⟨Name.ofText "hunt", UnionType.ofList [.instanceOf zebra.name],
          ⟨⟨"file:///src/animal.php"⟩, ⟨⟨12, 0⟩, ⟨12, 0⟩⟩⟩⟩ ∧
      (ofSnapshot snapshot).findConstant? smallLimit.name =
        some ⟨Name.ofText "limit", ⟨⟨"file:///src/constants.php"⟩, ⟨⟨2, 0⟩, ⟨2, 0⟩⟩⟩⟩ ∧
      (ofSnapshot snapshot).members = (ofSnapshot rearranged).members ∧
      ((ofSnapshot snapshot).resolver Toggles.all).resolveAll (Request.start .typeDefinition)
          calls =
        ((ofSnapshot rearranged).resolver Toggles.all).resolveAll (Request.start .typeDefinition)
          calls := by
  have hclasses : Rearranged ClassEntry.name snapshot.classes rearranged.classes :=
    (Rearranged.again (a := animal) (by decide +kernel) [zebra] []).trans
      (.swap (by decide +kernel) [])
  have hfunctions : Rearranged FunctionEntry.name snapshot.functions rearranged.functions :=
    (Rearranged.again (a := hunt) (by decide +kernel) [feed] []).trans
      (.swap (by decide +kernel) [])
  have hconstants : Rearranged ConstantEntry.name snapshot.constants rearranged.constants :=
    .swap (by decide +kernel) []
  have hsame : snapshot.SameFirst rearranged :=
    Snapshot.sameFirst_of_rearranged hclasses hfunctions hconstants
  obtain ⟨hfound, hsnapshots⟩ := first_declarations_count
  obtain ⟨_, ⟨_, _, hmembers⟩, hrequests⟩ := hsnapshots snapshot rearranged hsame
  obtain ⟨hclass, hfunction, hconstant⟩ := hfound snapshot
  refine ⟨hsame, ?_, ?_, ?_, hmembers, (hrequests _ _ _).1⟩
  · rw [(hclass oldAnimal.name).1]
    decide +kernel
  · rw [hfunction oldHunt.name]
    decide +kernel
  · rw [hconstant smallLimit.name]
    decide +kernel

end CodeBase

end GotoDefinition
