import GotoDefinition.Ty.Basic

/-!
# GotoDefinition.Ty.Union

The possible types of an expression, in the order they were first added and without repetition.

* `types_add` — adding a type that is there in some spelling changes nothing; any other type is put
  at the end.
* `ofText` — a union text is alternatives between `|`; a `?` in front of one adds `null` behind it.
-/

namespace GotoDefinition

/-- Types no two of which are the same in some spelling. -/
structure UnionType where
  types : List Ty
  distinct : types.Pairwise fun s t => s.same t = false

namespace UnionType

theorem ext_types {u v : UnionType} (h : u.types = v.types) : u = v := by
  cases u
  cases v
  cases h
  rfl

instance : DecidableEq UnionType := fun u v =>
  if h : u.types = v.types then .isTrue (ext_types h)
  else .isFalse fun e => h (congrArg UnionType.types e)

def empty : UnionType :=
  ⟨[], .nil⟩

instance : Inhabited UnionType := ⟨empty⟩

def has (u : UnionType) (t : Ty) : Bool :=
  u.types.any t.same

theorem has_iff {u : UnionType} {t : Ty} : u.has t = true ↔ ∃ s ∈ u.types, t.same s = true := by
  simp [has]

theorem distinct_append {u : UnionType} {t : Ty} (h : u.has t = false) :
    (u.types ++ [t]).Pairwise fun r s => r.same s = false := by
  rw [List.pairwise_append]
  refine ⟨u.distinct, List.pairwise_singleton .., ?_⟩
  intro s hs r hr
  cases List.mem_singleton.mp hr
  rw [Ty.same_comm]
  simp only [has, List.any_eq_false, Bool.not_eq_true] at h
  exact h s hs

/-- The type is put at the end, unless it is there in some spelling. -/
def add (u : UnionType) (t : Ty) : UnionType :=
  if h : u.has t then u
  else ⟨u.types ++ [t], distinct_append (by simpa using h)⟩

theorem types_add (u : UnionType) (t : Ty) :
    (u.add t).types = if u.has t then u.types else u.types ++ [t] := by
  unfold add
  split <;> simp [*]

def addAll (u : UnionType) (ts : List Ty) : UnionType :=
  ts.foldl add u

def ofList (ts : List Ty) : UnionType :=
  empty.addAll ts

def merge (u v : UnionType) : UnionType :=
  u.addAll v.types

def size (u : UnionType) : Nat :=
  u.types.length

def isEmpty (u : UnionType) : Bool :=
  u.types.isEmpty

/-- The classes of the class-like types, in order. -/
def classes (u : UnionType) : List ClassName :=
  u.types.filterMap Ty.className?

/-- The functions of the closure types, in order. -/
def closures (u : UnionType) : List FunctionName :=
  u.types.filterMap fun
    | .closure f => some f
    | .native _ => none
    | .instanceOf _ => none

/-- The same types in the same order, up to the case of names. -/
def same (u v : UnionType) : Bool :=
  u.size == v.size && (u.types.zip v.types).all fun (s, t) => s.same t

def text (u : UnionType) : String :=
  "|".intercalate (u.types.map Ty.text)

/-! ## Reading -/

/-- Adds what one alternative of a union text stands for. -/
def addAlternative (u : UnionType) (cs : List Char) : Except TypeError UnionType :=
  match Text.trim cs with
  | '?' :: rest =>
    match Ty.ofChars rest with
    | .ok t => .ok ((u.add t).add (.native .null))
    | .error e => .error e
  | trimmed =>
    match Ty.ofTrimmed trimmed with
    | .ok t => .ok (u.add t)
    | .error e => .error e

def addAlternatives (u : UnionType) : List (List Char) → Except TypeError UnionType
  | [] => .ok u
  | cs :: rest =>
    match u.addAlternative cs with
    | .ok v => v.addAlternatives rest
    | .error e => .error e

/-- A text of white space alone is the empty union. -/
def ofChars (cs : List Char) : Except TypeError UnionType :=
  if Text.isAllBlank cs then .ok empty
  else empty.addAlternatives (Text.segments '|' cs)

def ofText (s : String) : Except TypeError UnionType :=
  ofChars s.toList

end UnionType

end GotoDefinition
