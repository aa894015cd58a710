/-!
# GotoDefinition.CodeBase.Index

A table in which the first item of a key counts.

* `find?_ofList` — a table made from a list finds the first element of the list with the key.
-/

namespace GotoDefinition

/-- Items under their keys, each key once. -/
structure Index {α : Type} (key : α → String) where
  items : List α

namespace Index

variable {α : Type} {key : α → String}

def empty : Index key :=
  ⟨[]⟩

def find? (t : Index key) (k : String) : Option α :=
  t.items.find? (key · == k)

def has (t : Index key) (k : String) : Bool :=
  (t.find? k).isSome

/-- A key that is there already keeps its item. -/
def insertNew (t : Index key) (a : α) : Index key :=
  if t.has (key a) then t else ⟨t.items ++ [a]⟩

def ofList (as : List α) : Index key :=
  as.foldl insertNew empty

/-! ## What is found -/

theorem key_of_find? {t : Index key} {k : String} {a : α} (h : t.find? k = some a) : key a = k := by
  simpa using List.find?_some h

theorem mem_of_find? {t : Index key} {k : String} {a : α} (h : t.find? k = some a) :
    a ∈ t.items :=
  List.mem_of_find?_eq_some h

theorem find?_insertNew (t : Index key) (a : α) (k : String) :
    (t.insertNew a).find? k = (t.find? k).or (if key a = k then some a else none) := by
  unfold insertNew
  split
  · rename_i h
    by_cases hk : key a = k
    · subst hk
      obtain ⟨b, hb⟩ := Option.isSome_iff_exists.mp h
      simp [hb]
    · simp [hk]
  · simp only [find?, List.find?_append]
    by_cases hk : key a = k
    · simp [hk]
    · have hb : (key a == k) = false := by simp [hk]
      simp [hk, hb]

theorem find?_foldl (as : List α) (t : Index key) (k : String) :
    (as.foldl insertNew t).find? k = (t.find? k).or (as.find? (key · == k)) := by
  induction as generalizing t with
  | nil => simp
  | cons a as ih =>
    rw [List.foldl_cons, ih, find?_insertNew, List.find?_cons]
    by_cases h : key a = k
    · simp [h]
    · have hb : (key a == k) = false := by simp [h]
      simp [h, hb]

theorem find?_ofList (as : List α) (k : String) :
    (ofList as : Index key).find? k = as.find? (key · == k) := by
  rw [ofList, find?_foldl]
  simp [empty, find?]

end Index

end GotoDefinition
