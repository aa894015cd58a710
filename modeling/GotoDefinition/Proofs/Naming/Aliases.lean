import GotoDefinition.Imports

/-!
# GotoDefinition.Proofs.Naming.Aliases

What the import table of a file gives for the first part of a name.

An alias that is spelled like the name decides. Without one the name is compared regardless of case,
and of the aliases that agree with it then, the smallest decides.

* `find?_eq_some_iff` — the table gives a target exactly by this rule.
* `find?_eq_none_iff` — it gives none exactly when no alias agrees with the name in any case.
-/

namespace GotoDefinition

namespace Imports

/-- The target that a name stands for. -/
inductive Gives (is : Imports) (key : String) : String → Prop where
  | exact {target : String} (h : (key, target) ∈ is.entries) : Gives is key target
  | folded {a target : String} (hexact : ∀ e ∈ is.entries, e.1 ≠ key)
      (h : (a, target) ∈ is.entries) (halike : Text.alike a key = true)
      (hleast : ∀ e ∈ is.entries, Text.alike e.1 key = true → a ≤ e.1) : Gives is key target

/-- No alias agrees with the name, in any case. -/
def Misses (is : Imports) (key : String) : Prop :=
  ∀ e ∈ is.entries, Text.alike e.1 key = false

/-! ## Searching entries in ascending order -/

variable {es : List (String × String)}

theorem find?_entry (hascending : es.Pairwise fun e f => e.1 < f.1) {e : String × String}
    (h : e ∈ es) : es.find? (·.1 == e.1) = some e := by
  induction es with
  | nil => cases h
  | cons f es ih =>
    obtain ⟨hhead, htail⟩ := List.pairwise_cons.mp hascending
    rcases List.mem_cons.mp h with rfl | h
    · simp
    · have hne : f.1 ≠ e.1 := String.ne_of_lt (hhead e h)
      rw [List.find?_cons_of_neg (by simpa using hne), ih htail h]

/-- The entry that is found first has the smallest alias. -/
theorem find?_least (hascending : es.Pairwise fun e f => e.1 < f.1)
    {p : String × String → Bool} {e : String × String} (h : es.find? p = some e) :
    ∀ f ∈ es, p f = true → e.1 ≤ f.1 := by
  obtain ⟨_, before, after, rfl, hbefore⟩ := List.find?_eq_some_iff_append.mp h
  obtain ⟨_, hafter, _⟩ := List.pairwise_append.mp hascending
  intro f hf hp
  rcases List.mem_append.mp hf with hf | hf
  · have hnot := hbefore f hf
    rw [hp] at hnot
    cases hnot
  · rcases List.mem_cons.mp hf with rfl | hf
    · exact String.le_refl _
    · exact Std.le_of_lt (List.rel_of_pairwise_cons hafter hf)

/-! ## Targets of a table -/

variable {is : Imports} {key target : String}

theorem Gives.entry (h : is.Gives key target) : ∃ e ∈ is.entries, e.2 = target := by
  cases h with
  | exact h => exact ⟨_, h, rfl⟩
  | folded _ h _ _ => exact ⟨_, h, rfl⟩

theorem gives_of_find? (h : is.find? key = some target) : is.Gives key target := by
  rw [find?] at h
  split at h
  · rename_i a t hfound
    cases h
    have hkey : a = key := by simpa using List.find?_some hfound
    subst hkey
    exact .exact (List.mem_of_find?_eq_some hfound)
  · rename_i hnone
    obtain ⟨⟨a, t⟩, hfound, rfl⟩ := Option.map_eq_some_iff.mp h
    have halike : Text.alike a key = true := by simpa using List.find?_some hfound
    refine .folded ?_ (List.mem_of_find?_eq_some hfound) halike ?_
    · intro e he
      simpa using List.find?_eq_none.mp hnone e he
    · exact find?_least is.ascending hfound

theorem find?_of_gives (h : is.Gives key target) : is.find? key = some target := by
  rw [find?]
  cases h with
  | exact h => rw [find?_entry is.ascending h]
  | @folded a _ hexact h halike hleast =>
    have hnone : is.entries.find? (·.1 == key) = none :=
      List.find?_eq_none.mpr fun e he => by simpa using hexact e he
    rw [hnone]
    cases hfound : is.entries.find? (Text.alike ·.1 key) with
    | none =>
      have hnot : ¬Text.alike a key = true := List.find?_eq_none.mp hfound (a, target) h
      exact absurd halike hnot
    | some e =>
      -- Both entries have the smallest alias that agrees with the name, and it is there once.
      have hmem : e ∈ is.entries := List.mem_of_find?_eq_some hfound
      have hle : e.1 ≤ a := find?_least is.ascending hfound _ h halike
      have hagrees : Text.alike e.1 key = true := by simpa using List.find?_some hfound
      have hge : a ≤ e.1 := hleast e hmem hagrees
      have hsame : e.1 = a := String.le_antisymm hle hge
      have hentry := find?_entry is.ascending hmem
      rw [hsame, find?_entry is.ascending h] at hentry
      rw [← Option.some.inj hentry, Option.map_some]

theorem find?_eq_some_iff : is.find? key = some target ↔ is.Gives key target :=
  ⟨gives_of_find?, find?_of_gives⟩

theorem find?_eq_none_iff : is.find? key = none ↔ is.Misses key := by
  rw [find?, Misses]
  constructor
  · intro h
    split at h
    · cases h
    · simpa using h
  · intro hmisses
    have hexact : is.entries.find? (·.1 == key) = none := by
      refine List.find?_eq_none.mpr fun e he hkey => ?_
      have halike := hmisses e he
      rw [beq_iff_eq.mp hkey, Text.alike_refl] at halike
      cases halike
    rw [hexact]
    simpa using hmisses

end Imports

end GotoDefinition
