import GotoDefinition.Text.Letters

/-!
# GotoDefinition.Imports

The import table of a file: aliases and the names they stand for, in the order of the aliases.

An alias is looked up as written and, failing that, up to the case of ASCII letters; of several
aliases that then agree the smallest is taken.

* `ascending_insertEntry` — setting the target of an alias keeps the aliases in order.
-/

namespace GotoDefinition

/-- Aliases in ascending order, each once. -/
structure Imports where
  entries : List (String × String)
  ascending : entries.Pairwise fun e f => e.1 < f.1

namespace Imports

theorem ext_entries {is js : Imports} (h : is.entries = js.entries) : is = js := by
  cases is
  cases js
  cases h
  rfl

instance : DecidableEq Imports := fun is js =>
  if h : is.entries = js.entries then .isTrue (ext_entries h)
  else .isFalse fun e => h (congrArg Imports.entries e)

def empty : Imports :=
  ⟨[], .nil⟩

def insertEntry (key target : String) : List (String × String) → List (String × String)
  | [] => [(key, target)]
  | (a, t) :: rest =>
    if key < a then (key, target) :: (a, t) :: rest
    else if key = a then (key, target) :: rest
    else (a, t) :: insertEntry key target rest

theorem mem_insertEntry {key target : String} {es : List (String × String)} {e : String × String}
    (h : e ∈ insertEntry key target es) : e = (key, target) ∨ e ∈ es := by
  induction es with
  | nil => simpa [insertEntry] using h
  | cons f es ih =>
    obtain ⟨a, t⟩ := f
    rw [insertEntry] at h
    split at h
    · simpa using h
    · split at h
      · rcases List.mem_cons.mp h with h | h
        · exact .inl h
        · exact .inr (List.mem_cons_of_mem _ h)
      · rcases List.mem_cons.mp h with h | h
        · exact .inr (by simp [h])
        · exact (ih h).imp_right (List.mem_cons_of_mem _)

theorem ascending_insertEntry (key target : String) {es : List (String × String)}
    (h : es.Pairwise fun e f => e.1 < f.1) :
    (insertEntry key target es).Pairwise fun e f => e.1 < f.1 := by
  induction es with
  | nil => exact List.pairwise_singleton ..
  | cons f es ih =>
    obtain ⟨a, t⟩ := f
    obtain ⟨hhead, htail⟩ := List.pairwise_cons.mp h
    rw [insertEntry]
    split
    · rename_i hlt
      refine List.pairwise_cons.mpr ⟨?_, h⟩
      intro e he
      rcases List.mem_cons.mp he with he | he
      · cases he
        exact hlt
      · exact String.lt_trans hlt (hhead e he)
    · split
      · rename_i heq
        subst heq
        exact List.pairwise_cons.mpr ⟨hhead, htail⟩
      · rename_i hlt hne
        refine List.pairwise_cons.mpr ⟨?_, ih htail⟩
        intro e he
        rcases mem_insertEntry he with he | he
        · cases he
          exact Std.lt_of_le_of_ne (String.not_lt.mp hlt) (Ne.symm hne)
        · exact hhead e he

/-- An alias that is there already is given the new target. -/
def insert (is : Imports) (key target : String) : Imports :=
  ⟨insertEntry key target is.entries, ascending_insertEntry key target is.ascending⟩

def find? (is : Imports) (key : String) : Option String :=
  match is.entries.find? (·.1 == key) with
  | some (_, target) => some target
  | none => (is.entries.find? (Text.alike ·.1 key)).map (·.2)

end Imports

end GotoDefinition
