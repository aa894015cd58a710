import GotoDefinition.Document.Context
import GotoDefinition.Proofs.Run
import Mathlib.Data.List.Nodup

/-!
# GotoDefinition.Proofs.Scopes

Variables that are added one by one and variables that a document lists.

A variable that is added loses the `$`s of its name and takes the place of the one that had the
name, so the last addition is found. A document is taken as it stands: names keep their `$`s, under
which nothing is ever looked up, and of two variables with one name the first is found. So a scope
that is read answers like the scope that is built from the same entries only if each name stands
there without `$` as well, for the first time with the type that it has at last.

* `Scope.find?_add`, `Scope.find?_addAll` — what is found after one addition, and after many.
* `Scope.find?_listed` — what is found of a list that is taken as it stands.
* `Scope.read_as_built_iff` — the exact condition for both to be the same.
* `Scope.read_not_as_built` — two documents that do not meet it.
-/

namespace GotoDefinition

namespace Scope

/-- The name that a variable is looked up by. -/
def bare (name : String) : String :=
  Text.stripLeading '$' name

theorem bare_bare (name : String) : bare (bare name) = bare name :=
  Text.stripLeading_stripLeading '$' name

/-! ## Additions -/

theorem find?_replaceFirst (v : Variable) (vs : List Variable) (key : String) :
    (replaceFirst v vs).find? (·.name == key) =
      if v.name = key then some v else vs.find? (·.name == key) := by
  induction vs with
  | nil => by_cases h : v.name = key <;> simp [replaceFirst, h]
  | cons w ws ih =>
    rw [replaceFirst]
    by_cases hw : w.name = v.name
    · by_cases h : v.name = key <;> simp [hw, h]
    · have hkept : (w.name == v.name) = false := beq_false_of_ne hw
      rw [hkept, if_neg Bool.false_ne_true, List.find?_cons, List.find?_cons, ih]
      by_cases h : w.name = key
      · have hv : v.name ≠ key := fun hv => hw (h.trans hv.symm)
        simp [h, hv]
      · have hother : (w.name == key) = false := beq_false_of_ne h
        rw [hother]

theorem find?_add (s : Scope) (v : Variable) (name : String) :
    (s.add v).find? name = if v.name = bare name then some v else s.find? name :=
  find?_replaceFirst v s.entries (bare name)

/-- Variables added one after the other, under names that may have a `$` in front. -/
def addAll (s : Scope) (es : List (String × UnionType)) : Scope :=
  es.foldl (fun s e => s.add (.named e.1 e.2)) s

/-- The type of the last entry of a name, written with or without `$`. -/
def lastType? (es : List (String × UnionType)) (key : String) : Option UnionType :=
  (es.reverse.find? fun e => bare e.1 == key).map Prod.snd

theorem lastType?_cons (e : String × UnionType) (es : List (String × UnionType)) (key : String) :
    lastType? (e :: es) key =
      (lastType? es key).or (if bare e.1 = key then some e.2 else none) := by
  rw [lastType?, lastType?, List.reverse_cons, List.find?_append]
  cases es.reverse.find? fun e => bare e.1 == key with
  | some last => rfl
  | none => by_cases h : bare e.1 = key <;> simp [h]

/-- After any number of additions the last one of a name is found, else what was there before. -/
theorem find?_addAll (s : Scope) (es : List (String × UnionType)) (name : String) :
    (s.addAll es).find? name =
      ((lastType? es (bare name)).map (Variable.mk (bare name))).or (s.find? name) := by
  induction es generalizing s with
  | nil => rfl
  | cons e es ih =>
    have hrest : (s.addAll (e :: es)).find? name =
        ((s.add (.named e.1 e.2)).addAll es).find? name := rfl
    rw [hrest, ih, find?_add, lastType?_cons]
    cases lastType? es (bare name) with
    | some u => rfl
    | none =>
      by_cases h : bare e.1 = bare name
      · have hname : (Variable.named e.1 e.2).name = bare name := h
        rw [if_pos h, if_pos hname, ← h]
        rfl
      · have hname : (Variable.named e.1 e.2).name ≠ bare name := h
        rw [if_neg h, if_neg hname]
        rfl

/-! ## Lists -/

/-- The variables as they stand. -/
def listed (es : List (String × UnionType)) : Scope :=
  ⟨es.map fun e => ⟨e.1, e.2⟩⟩

/-- The type of the first entry of exactly this name. -/
def firstType? (es : List (String × UnionType)) (key : String) : Option UnionType :=
  (es.find? fun e => e.1 == key).map Prod.snd

theorem find?_listed (es : List (String × UnionType)) (name : String) :
    (listed es).find? name =
      (firstType? es (bare name)).map (Variable.mk (bare name)) := by
  have hfind : (listed es).find? name =
      (es.find? fun e => e.1 == bare name).map fun e => ⟨e.1, e.2⟩ := List.find?_map ..
  rw [hfind, firstType?]
  cases hfirst : es.find? fun e => e.1 == bare name with
  | none => rfl
  | some e =>
    have hname : e.1 = bare name := by simpa using List.find?_some hfirst
    rw [← hname]
    rfl

/-! ## Lists against additions -/

variable {es : List (String × UnionType)}

theorem firstType?_isSome_iff {key : String} :
    (firstType? es key).isSome = true ↔ ∃ e ∈ es, e.1 = key := by
  simp [firstType?]

theorem lastType?_isSome_iff {key : String} :
    (lastType? es key).isSome = true ↔ ∃ e ∈ es, bare e.1 = key := by
  simp [lastType?]

/-- A name under which nothing was added is not listed either. -/
theorem firstType?_of_lastType?_none {name : String} (h : lastType? es (bare name) = none) :
    firstType? es (bare name) = none := by
  rw [← Option.not_isSome_iff_eq_none, lastType?_isSome_iff] at h
  rw [← Option.not_isSome_iff_eq_none, firstType?_isSome_iff]
  rintro ⟨e, he, hname⟩
  exact h ⟨e, he, by rw [hname, bare_bare]⟩

theorem find?_built (es : List (String × UnionType)) (name : String) :
    (empty.addAll es).find? name = (lastType? es (bare name)).map (Variable.mk (bare name)) := by
  have hnone : empty.find? name = none := rfl
  rw [find?_addAll, hnone, Option.or_none]

theorem find?_listed_eq_built_iff :
    (∀ name, (listed es).find? name = (empty.addAll es).find? name) ↔
      ∀ e ∈ es, firstType? es (bare e.1) = lastType? es (bare e.1) := by
  have hsame : ∀ name, (listed es).find? name = (empty.addAll es).find? name ↔
      firstType? es (bare name) = lastType? es (bare name) := by
    intro name
    rw [find?_listed, find?_built]
    refine (Option.map_injective ?_).eq_iff
    intro u v huv
    cases huv
    rfl
  simp only [hsame]
  refine ⟨fun h e _ => h e.1, fun h name => ?_⟩
  cases hlast : lastType? es (bare name) with
  | none => exact firstType?_of_lastType?_none hlast
  | some u =>
    obtain ⟨e, he, hname⟩ := lastType?_isSome_iff.mp (Option.isSome_of_eq_some hlast)
    rw [← hlast, ← hname]
    exact h e he

theorem has_listed (es : List (String × UnionType)) (name : String) :
    (listed es).has name = true ↔ ∃ e ∈ es, e.1 = bare name := by
  rw [has, find?_listed, Option.isSome_map, firstType?_isSome_iff]

theorem has_built (es : List (String × UnionType)) (name : String) :
    (empty.addAll es).has name = true ↔ ∃ e ∈ es, bare e.1 = bare name := by
  rw [has, find?_built, Option.isSome_map, lastType?_isSome_iff]

/-- Every listed name is there without `$` as well. -/
def AllBare (es : List (String × UnionType)) : Prop :=
  ∀ e ∈ es, ∃ e' ∈ es, e'.1 = bare e.1

theorem has_listed_self_iff : (∀ e ∈ es, (listed es).has e.1 = true) ↔ AllBare es := by
  simp only [has_listed, AllBare]

theorem has_listed_eq_built_iff :
    (∀ name, (listed es).has name = (empty.addAll es).has name) ↔ AllBare es := by
  rw [← has_listed_self_iff]
  constructor
  · intro h e he
    rw [h, has_built]
    exact ⟨e, he, rfl⟩
  · intro h name
    rw [Bool.eq_iff_iff, has_listed, has_built]
    constructor
    · rintro ⟨e, he, hname⟩
      exact ⟨e, he, by rw [hname, bare_bare]⟩
    · rintro ⟨e, he, hname⟩
      rw [← hname]
      exact (has_listed es e.1).mp (h e he)

/-- Where names are bare and no two are equal, it does not matter from which end one looks. -/
theorem firstType?_eq_lastType? (hbare : ∀ e ∈ es, bare e.1 = e.1)
    (hdistinct : (es.map Prod.fst).Nodup) (key : String) :
    firstType? es key = lastType? es key := by
  induction es with
  | nil => rfl
  | cons e es ih =>
    rw [List.map_cons, List.nodup_cons] at hdistinct
    have hrest := ih (fun f hf => hbare f (List.mem_cons_of_mem e hf)) hdistinct.2
    rw [lastType?_cons, ← hrest, hbare e List.mem_cons_self]
    by_cases h : e.1 = key
    · have hnone : firstType? es key = none := by
        rw [← Option.not_isSome_iff_eq_none, firstType?_isSome_iff]
        rintro ⟨f, hf, hname⟩
        exact hdistinct.1 (List.mem_map.mpr ⟨f, hf, hname.trans h.symm⟩)
      rw [hnone, if_pos h]
      simp [firstType?, h]
    · have hother : (e.1 == key) = false := beq_false_of_ne h
      rw [if_neg h, Option.or_none, firstType?, List.find?_cons, hother, firstType?]

end Scope

namespace Reader

/-! ## Documents -/

theorem items_eq_allOrFirstError {α : Type} (read : Reader α) (vs : List Json) :
    items read vs = allOrFirstError (vs.map read) := by
  induction vs with
  | nil => rfl
  | cons v vs ih =>
    rw [items, List.map_cons, ih]
    cases read v with
    | error e => rfl
    | ok a =>
      rw [allOrFirstError]
      cases allOrFirstError (vs.map read) with
      | error e => rfl
      | ok as => rfl

/-- A document of variables is read as the list of these. -/
theorem scope_of_items {items : List Json} {es : List (String × UnionType)}
    (h : List.Forall₂ (fun item e => variableDocument item = .ok ⟨e.1, e.2⟩) items es) :
    scope (.array items) = .ok (.listed es) := by
  have hread : list variableDocument (.array items) = .ok (Scope.listed es).entries := by
    rw [list, items_eq_allOrFirstError, allOrFirstError_map_eq_ok_iff, Scope.listed]
    exact List.forall₂_map_right_iff.mpr h
  rw [scope, hread]

end Reader

namespace Scope

namespace Listing

def int : UnionType :=
  UnionType.ofList [.native .int]

def string : UnionType :=
  UnionType.ofList [.native .string]

/-- The second name comes twice, with one type. -/
def twice : List (String × UnionType) :=
  [("x", int), ("y", string), ("$y", string)]

def document : List Json :=
  [.obj [("name", .str "x"), ("type", .str "int")],
    .obj [("name", .str "y"), ("type", .str "string")],
    .obj [("type", .str "string"), ("name", .str "$y")]]

/-- A context in which `$x` is an integer, with the `$` written. -/
def sigil : String :=
  "\x7b\"scope\":[\x7b\"name\":\"$x\",\"type\":\"int\"\x7d]\x7d"

/-- A context in which `x` is an integer at first and a string at last. -/
def repeated : String :=
  "\x7b\"scope\":[\x7b\"name\":\"x\",\"type\":\"int\"\x7d," ++
    "\x7b\"name\":\"x\",\"type\":\"string\"\x7d]\x7d"

end Listing

/-! ## Read against built -/

variable {items : List Json} {es : List (String × UnionType)}

/-- A scope that is read from a list of variables finds what the scope finds that is built from the
same list if and only if each name is listed without `$` as well, for the first time with the type
that the name is listed with at last. Both know the same names, and every name is found as it is
listed, if and only if each is listed without `$` as well. In particular they agree on distinct
names without `$`. -/
theorem read_as_built_iff
    (hitems : List.Forall₂ (fun item e => Reader.variableDocument item = .ok ⟨e.1, e.2⟩)
      items es) :
    ∃ s, Reader.scope (.array items) = .ok s ∧
      ((∀ name, s.find? name = (empty.addAll es).find? name) ↔
        ∀ e ∈ es, firstType? es (bare e.1) = lastType? es (bare e.1)) ∧
      ((∀ name, s.has name = (empty.addAll es).has name) ↔
        ∀ e ∈ es, ∃ e' ∈ es, e'.1 = bare e.1) ∧
      ((∀ e ∈ es, s.has e.1 = true) ↔ ∀ e ∈ es, ∃ e' ∈ es, e'.1 = bare e.1) ∧
      ((∀ e ∈ es, bare e.1 = e.1) → (es.map Prod.fst).Nodup → ∀ name,
        s.find? name = (empty.addAll es).find? name ∧
          s.has name = (empty.addAll es).has name) := by
  refine ⟨listed es, Reader.scope_of_items hitems, find?_listed_eq_built_iff,
    has_listed_eq_built_iff, has_listed_self_iff, ?_⟩
  intro hbare hdistinct name
  have hfind : (listed es).find? name = (empty.addAll es).find? name :=
    find?_listed_eq_built_iff.mpr (fun e _ => firstType?_eq_lastType? hbare hdistinct _) name
  exact ⟨hfind, congrArg Option.isSome hfind⟩

open Listing in
/-- `$y` is found, since `y` is listed as well. -/
theorem read_as_built_iff_twice :
    List.Forall₂ (fun item e => Reader.variableDocument item = .ok ⟨e.1, e.2⟩) document twice ∧
    ∃ s, Reader.scope (.array document) = .ok s ∧
      (∀ name, s.find? name = (empty.addAll twice).find? name) ∧ s.has "$y" = true := by
  have hitems : List.Forall₂ (fun item e => Reader.variableDocument item = .ok ⟨e.1, e.2⟩)
      document twice :=
    .cons (by decide +kernel) (.cons (by decide +kernel) (.cons (by decide +kernel) .nil))
  obtain ⟨s, hs, hfind, _, hself, _⟩ := read_as_built_iff hitems
  exact ⟨hitems, s, hs, hfind.mpr (by decide +kernel),
    hself.mpr (by decide +kernel) ("$y", string) (by decide +kernel)⟩

open Listing in
/-- A variable that is listed with its `$` is not found by the name that it is listed with, and of
two with one name the first is found. -/
theorem read_not_as_built :
    (∃ ctx, Reader.document Reader.context sigil = .ok ctx ∧
      ctx.scope = listed [("$x", int)] ∧
      ctx.findVariable? "$x" = none ∧ ctx.scope.has "$x" = false ∧
      (empty.addAll [("$x", int)]).has "$x" = true) ∧
    ∃ ctx, Reader.document Reader.context repeated = .ok ctx ∧
      ctx.scope = listed [("x", int), ("x", string)] ∧
      ctx.scope.find? "x" = some ⟨"x", int⟩ ∧
      (empty.addAll [("x", int), ("x", string)]).find? "x" = some ⟨"x", string⟩ := by
  refine ⟨⟨{ Context.empty with scope := listed [("$x", int)] }, ?_⟩,
    ⟨{ Context.empty with scope := listed [("x", int), ("x", string)] }, ?_⟩⟩
  · decide +kernel
  · decide +kernel

end Scope

end GotoDefinition
