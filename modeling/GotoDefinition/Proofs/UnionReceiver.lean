import GotoDefinition.Proofs.Targets

/-!
# GotoDefinition.Proofs.UnionReceiver

Members of a receiver that may be of several classes.

The classes of the receiver's type are asked one after the other, and a class that is not in the
index has no answer. The first answer counts. When there is none, the failure says how far the
search came: no class to ask, no class that is indexed, or no class that has the member.

* `firstHit_memberOf` — what the search comes to, each outcome with the exact condition for it.
* `Padded.answers` — types without an indexed class may come and go between the others.
* `first_class_decides` — both for properties, methods and constants of classes.
-/

namespace GotoDefinition

namespace CodeBase

variable {α : Type} {cb : CodeBase}

/-! ## Answers of classes -/

/-- The member that a class has, if the class is in the index at all. -/
def answer? (cb : CodeBase) (find : ClassName → Option α) (c : ClassName) : Option α :=
  if cb.hasClass c then find c else none

theorem answer?_eq_some_iff {find : ClassName → Option α} {c : ClassName} {a : α} :
    cb.answer? find c = some a ↔ cb.hasClass c = true ∧ find c = some a := by
  simp [answer?]

theorem answer?_eq_none_iff {find : ClassName → Option α} {c : ClassName} :
    cb.answer? find c = none ↔ (cb.hasClass c = true → find c = none) := by
  simp [answer?]

theorem findSome?_indexed (find : ClassName → Option α) (cs : List ClassName) :
    (cs.filter cb.hasClass).findSome? find = cs.findSome? (cb.answer? find) := by
  rw [← List.head?_filterMap, List.filterMap_filter, List.head?_filterMap]
  rfl

/-- The first answer is that of a class with none in front of it that has an answer. -/
theorem firstAnswer_iff {find : ClassName → Option α} {cs : List ClassName} {a : α} :
    cs.findSome? (cb.answer? find) = some a ↔
      ∃ before c after, cs = before ++ c :: after ∧ cb.hasClass c = true ∧ find c = some a ∧
        ∀ d ∈ before, cb.hasClass d = true → find d = none := by
  simp only [List.findSome?_eq_some_iff, answer?_eq_some_iff, answer?_eq_none_iff, and_assoc]

theorem answered_iff {find : ClassName → Option α} {cs : List ClassName} :
    (∃ a, cs.findSome? (cb.answer? find) = some a) ↔
      ∃ c ∈ cs, cb.hasClass c = true ∧ (find c).isSome = true := by
  constructor
  · rintro ⟨a, ha⟩
    obtain ⟨c, hc, hanswer⟩ := List.exists_of_findSome?_eq_some ha
    obtain ⟨hindexed, hfind⟩ := answer?_eq_some_iff.mp hanswer
    exact ⟨c, hc, hindexed, by rw [hfind, Option.isSome_some]⟩
  · rintro ⟨c, hc, hindexed, hfind⟩
    rw [← Option.isSome_iff_exists, List.findSome?_isSome_iff]
    exact ⟨c, hc, by rwa [answer?, if_pos hindexed]⟩

theorem unanswered_iff {find : ClassName → Option α} {cs : List ClassName} :
    cs.findSome? (cb.answer? find) = none ↔
      ∀ c ∈ cs, cb.hasClass c = true → find c = none := by
  simp only [List.findSome?_eq_none_iff, answer?_eq_none_iff]

/-! ## Outcomes of the search -/

/-- The search through some classes succeeds with the first answer, and fails for the reason that
there is. -/
structure FirstHit (cb : CodeBase) (find : ClassName → Option α) (cs : List ClassName)
    (x : Except LookupError α) : Prop where
  succeeds : (∃ a, x = .ok a) ↔ ∃ c ∈ cs, cb.hasClass c = true ∧ (find c).isSome = true
  first : ∀ a, x = .ok a ↔
    ∃ before c after, cs = before ++ c :: after ∧ cb.hasClass c = true ∧ find c = some a ∧
      ∀ d ∈ before, cb.hasClass d = true → find d = none
  noClass : (∃ what, x = .error (.unresolved what)) ↔ cs = []
  noneIndexed : ∀ name, x = .error (.notIndexed name) ↔
    (∃ c, cs.head? = some c ∧ name = c.text) ∧ ∀ c ∈ cs, cb.hasClass c = false
  noneHas : (∃ symbol, x = .error (.undeclared symbol)) ↔
    (∃ c ∈ cs, cb.hasClass c = true) ∧ ∀ c ∈ cs, cb.hasClass c = true → find c = none

variable {find : ClassName → Option α} {cs : List ClassName}

theorem firstHit_nil (find : ClassName → Option α) (what : String) :
    cb.FirstHit find [] (.error (.unresolved what)) where
  succeeds := by simp
  first := by simp
  noClass := by simp
  noneIndexed := by simp
  noneHas := by simp

theorem firstHit_of_answer {a : α} (h : cs.findSome? (cb.answer? find) = some a) :
    cb.FirstHit find cs (.ok a) := by
  obtain ⟨c, hc, hindexed, hfind⟩ := answered_iff.mp ⟨a, h⟩
  refine ⟨iff_of_true ⟨a, rfl⟩ ⟨c, hc, hindexed, hfind⟩, ?_, ?_, ?_, ?_⟩
  · intro b
    rw [← firstAnswer_iff, h, Except.ok.injEq, Option.some.injEq]
  · refine iff_of_false nofun ?_
    rintro rfl
    cases hc
  · intro name
    refine iff_of_false nofun ?_
    rintro ⟨_, hmissing⟩
    rw [hmissing c hc] at hindexed
    cases hindexed
  · refine iff_of_false nofun ?_
    rintro ⟨_, hnone⟩
    rw [hnone c hc hindexed] at hfind
    cases hfind

/-- Some class is indexed, but none has the member. -/
theorem firstHit_of_silence (h : cs.findSome? (cb.answer? find) = none)
    (hindexed : ∃ c ∈ cs, cb.hasClass c = true) (symbol : String) :
    cb.FirstHit find cs (.error (.undeclared symbol)) := by
  have hnone := unanswered_iff.mp h
  refine ⟨?_, ?_, ?_, ?_, iff_of_true ⟨symbol, rfl⟩ ⟨hindexed, hnone⟩⟩
  · rw [← answered_iff, h]
    simp
  · intro a
    rw [← firstAnswer_iff, h]
    simp
  · refine iff_of_false nofun ?_
    rintro rfl
    obtain ⟨c, hc, _⟩ := hindexed
    cases hc
  · intro name
    refine iff_of_false nofun ?_
    rintro ⟨_, hmissing⟩
    obtain ⟨c, hc, hindexed⟩ := hindexed
    rw [hmissing c hc] at hindexed
    cases hindexed

/-- There are classes, but none is indexed. -/
theorem firstHit_of_absence {c : ClassName}
    (hmissing : ∀ d ∈ c :: cs, cb.hasClass d = false) :
    cb.FirstHit find (c :: cs) (.error (.notIndexed c.text)) := by
  have hnone : (c :: cs).findSome? (cb.answer? find) = none := by
    refine unanswered_iff.mpr fun d hd hindexed => ?_
    rw [hmissing d hd] at hindexed
    cases hindexed
  refine ⟨?_, ?_, by simp, ?_, ?_⟩
  · rw [← answered_iff, hnone]
    simp
  · intro a
    rw [← firstAnswer_iff, hnone]
    simp
  · intro name
    have hname : (∃ d, (c :: cs).head? = some d ∧ name = d.text) ↔ c.text = name := by
      simp [eq_comm]
    rw [hname, Except.error.injEq, LookupError.notIndexed.injEq]
    exact ⟨fun h => ⟨h, hmissing⟩, And.left⟩
  · refine iff_of_false nofun ?_
    rintro ⟨⟨d, hd, hindexed⟩, _⟩
    rw [hmissing d hd] at hindexed
    cases hindexed

theorem firstHit_firstMember (describe : ClassName → String) (find : ClassName → Option α)
    (c : ClassName) (cs : List ClassName) :
    cb.FirstHit find (c :: cs) (cb.firstMember describe find (c :: cs)) := by
  rw [firstMember, findSome?_indexed]
  cases hfound : (c :: cs).findSome? (cb.answer? find) with
  | some a => exact firstHit_of_answer hfound
  | none =>
    dsimp only
    by_cases hany : (c :: cs).any cb.hasClass = true
    · rw [if_pos hany]
      exact firstHit_of_silence hfound (List.any_eq_true.mp hany) _
    · rw [if_neg hany]
      have hmissing : ∀ d ∈ c :: cs, cb.hasClass d = false := by simpa using hany
      exact firstHit_of_absence hmissing

theorem firstHit_memberOf (receiver : Node) (u : UnionType) (describe : ClassName → String)
    (find : ClassName → Option α) :
    cb.FirstHit find u.classes (cb.memberOf receiver (.ok u) describe find) := by
  simp only [memberOf, receiverClasses]
  cases u.classes with
  | nil => exact firstHit_nil find _
  | cons c cs => exact firstHit_firstMember describe find c cs

/-! ## Types that answer nothing -/

/-- A native type, or one whose class is not in the index. -/
def Idle (cb : CodeBase) (t : Ty) : Prop :=
  ∀ c, t.className? = some c → cb.hasClass c = false

/-- Types that become the same when idle ones are left out on either side. -/
inductive Padded (cb : CodeBase) : List Ty → List Ty → Prop where
  | nil : Padded cb [] []
  | keep (t : Ty) {ss ts : List Ty} (h : Padded cb ss ts) : Padded cb (t :: ss) (t :: ts)
  | left {t : Ty} (hidle : cb.Idle t) {ss ts : List Ty} (h : Padded cb ss ts) :
      Padded cb (t :: ss) ts
  | right {t : Ty} (hidle : cb.Idle t) {ss ts : List Ty} (h : Padded cb ss ts) :
      Padded cb ss (t :: ts)

/-- An idle type does not put a class before those that are asked. -/
theorem Idle.indexed_cons {t : Ty} (h : cb.Idle t) (ts : List Ty) :
    ((t :: ts).filterMap Ty.className?).filter cb.hasClass =
      (ts.filterMap Ty.className?).filter cb.hasClass := by
  cases hclass : t.className? with
  | none => rw [List.filterMap_cons_none hclass]
  | some c => rw [List.filterMap_cons_some hclass, List.filter_cons_of_neg (by simp [h c hclass])]

theorem Padded.indexed {ss ts : List Ty} (h : cb.Padded ss ts) :
    (ss.filterMap Ty.className?).filter cb.hasClass =
      (ts.filterMap Ty.className?).filter cb.hasClass := by
  induction h with
  | nil => rfl
  | keep t _ ih =>
    cases hclass : t.className? with
    | none => rw [List.filterMap_cons_none hclass, List.filterMap_cons_none hclass, ih]
    | some c =>
      rw [List.filterMap_cons_some hclass, List.filterMap_cons_some hclass, List.filter_cons,
        List.filter_cons, ih]
  | left hidle _ ih => rw [hidle.indexed_cons, ih]
  | right hidle _ ih => rw [hidle.indexed_cons, ih]

theorem memberOf_eq_ok_iff {receiver : Node} {u : UnionType} {describe : ClassName → String}
    {a : α} :
    cb.memberOf receiver (.ok u) describe find = .ok a ↔
      (u.classes.filter cb.hasClass).findSome? find = some a := by
  rw [(firstHit_memberOf receiver u describe find).first, ← firstAnswer_iff, findSome?_indexed]

theorem Padded.answers {u v : UnionType} (h : cb.Padded u.types v.types) (m n : Node)
    (describe : ClassName → String) (find : ClassName → Option α) (a : α) :
    cb.memberOf m (.ok u) describe find = .ok a ↔ cb.memberOf n (.ok v) describe find = .ok a := by
  have hindexed : u.classes.filter cb.hasClass = v.classes.filter cb.hasClass := h.indexed
  rw [memberOf_eq_ok_iff, memberOf_eq_ok_iff, hindexed]

/-! ## Members of nodes -/

variable (cb) (ctx : Context) (receiver : Node) (r : Range)

theorem property_literal (name : String) (isStatic : Bool) :
    cb.members.property ctx (.mk (.property isStatic receiver (.literal name)) r) isStatic =
      cb.memberOf receiver (cb.typeOf ctx receiver) (fun c => c.text ++ "::$" ++ name)
        (cb.findProperty? · name isStatic) :=
  if_pos rfl

variable {cb ctx receiver}

/-- A class that refers to no other has the members of its own entry. -/
theorem findMember?_alone {withInterfaces : Bool} {c : ClassName} {e : ClassEntry}
    (hfind : cb.findClass? c = some e) (hbases : e.bases withInterfaces = [])
    (pick : ClassEntry → Option α) : cb.findMember? withInterfaces c pick = pick e := by
  have hnew : ¬([] : List String).contains c.key = true := by simp
  have hlineage : cb.lineage withInterfaces c = [e] := by
    rw [lineage, walk_enter hnew hfind, hbases, List.nil_append, walk]
  rw [findMember?, hlineage, List.findSome?_cons, List.findSome?_nil]
  cases pick e <;> rfl

/-! ## A receiver of five types -/

namespace Mixed

def sources : Url :=
  ⟨"file:///src/streams.php"⟩

def instanceOf (name : String) : Ty :=
  .instanceOf (Name.ofText name)

/-- A class without a method to read. -/
def writer : ClassEntry :=
  ⟨Name.ofText "Writer", .ordinary, sources, 2, none, [], [], [], [], []⟩

def reader : ClassEntry :=
  ⟨Name.ofText "Reader", .ordinary, sources, 5, none, [], [], [],
    [⟨"read", 6, false, UnionType.ofList [.native .string]⟩], []⟩

def codeBase : CodeBase :=
  ofSnapshot ⟨[reader, writer], [], []⟩

/-- Nobody knows the class of the second type, nor that of closures. -/
def mixed : UnionType :=
  UnionType.ofList [.native .null, instanceOf "Socket", .closure (Name.ofText "open"),
    instanceOf "writer", instanceOf "READER"]

def plain : UnionType :=
  UnionType.ofList [instanceOf "writer", instanceOf "READER"]

def context : Context :=
  (Context.empty.withVariable (Variable.named "stream" mixed)).withVariable
    (Variable.named "file" plain)

def file : Node := Node.variableNamed "file"

end Mixed

end CodeBase

end GotoDefinition
