import GotoDefinition.Request

/-!
# GotoDefinition.Proofs.Occurrences

Lists in which each element is kept where it first occurs.

* `firstOccurrences_append` — what comes later is sorted into what has been kept.
* `firstOccurrences_append_congr`, `firstOccurrences_append_of_subset` — only what is new counts.
* `nodup_firstOccurrences`, `firstOccurrences_perm` — nothing is kept twice, in
  whatever order it comes.
* `firstOccurrences_eq_eraseDups` — the same as the library's removal of duplicates.
-/

namespace GotoDefinition

variable {α : Type} [DecidableEq α]

/-- One step of `firstOccurrences`. -/
def keepNew (seen : List α) (x : α) : List α :=
  if x ∈ seen then seen else seen ++ [x]

theorem firstOccurrences_append (xs ys : List α) :
    firstOccurrences (xs ++ ys) = ys.foldl keepNew (firstOccurrences xs) :=
  List.foldl_append

theorem mem_keepNew {seen : List α} {x y : α} : y ∈ keepNew seen x ↔ y ∈ seen ∨ y = x := by
  unfold keepNew
  split
  · rename_i hx
    constructor
    · exact .inl
    · rintro (hy | rfl)
      · exact hy
      · exact hx
  · rw [List.mem_append, List.mem_singleton]

theorem mem_foldl_keepNew {xs seen : List α} {y : α} :
    y ∈ xs.foldl keepNew seen ↔ y ∈ seen ∨ y ∈ xs := by
  induction xs generalizing seen with
  | nil => simp
  | cons x xs ih => rw [List.foldl_cons, ih, mem_keepNew, List.mem_cons, or_assoc]

theorem mem_firstOccurrences {xs : List α} {y : α} : y ∈ firstOccurrences xs ↔ y ∈ xs := by
  have h : y ∈ xs.foldl keepNew [] ↔ y ∈ [] ∨ y ∈ xs := mem_foldl_keepNew
  rw [List.mem_nil_iff, false_or] at h
  exact h

theorem foldl_keepNew_of_subset {xs seen : List α} (h : ∀ x ∈ xs, x ∈ seen) :
    xs.foldl keepNew seen = seen := by
  induction xs with
  | nil => rfl
  | cons x xs ih =>
    rw [List.foldl_cons, keepNew, if_pos (h x List.mem_cons_self)]
    exact ih fun y hy => h y (List.mem_cons_of_mem _ hy)

theorem firstOccurrences_append_congr {xs ys : List α}
    (h : firstOccurrences xs = firstOccurrences ys) (zs : List α) :
    firstOccurrences (xs ++ zs) = firstOccurrences (ys ++ zs) := by
  rw [firstOccurrences_append, firstOccurrences_append, h]

theorem firstOccurrences_append_of_subset {xs zs : List α} (h : ∀ z ∈ zs, z ∈ xs) :
    firstOccurrences (xs ++ zs) = firstOccurrences xs := by
  rw [firstOccurrences_append]
  exact foldl_keepNew_of_subset fun z hz => mem_firstOccurrences.mpr (h z hz)

theorem nodup_keepNew {seen : List α} (h : seen.Nodup) (x : α) : (keepNew seen x).Nodup := by
  unfold keepNew
  split
  · exact h
  · rename_i hx
    rw [List.nodup_append]
    refine ⟨h, List.pairwise_singleton .., ?_⟩
    intro y hy z hz heq
    rw [List.mem_singleton.mp hz] at heq
    exact hx (heq ▸ hy)

theorem nodup_foldl_keepNew {xs seen : List α} (h : seen.Nodup) :
    (xs.foldl keepNew seen).Nodup := by
  induction xs generalizing seen with
  | nil => exact h
  | cons x xs ih => exact ih (nodup_keepNew h x)

theorem nodup_firstOccurrences (xs : List α) : (firstOccurrences xs).Nodup :=
  nodup_foldl_keepNew List.nodup_nil

/-- The order of what comes in decides the order of what is kept, and nothing else. -/
theorem firstOccurrences_perm {xs ys : List α} (h : xs.Perm ys) :
    (firstOccurrences xs).Perm (firstOccurrences ys) := by
  rw [List.perm_ext_iff_of_nodup (nodup_firstOccurrences xs) (nodup_firstOccurrences ys)]
  intro x
  rw [mem_firstOccurrences, mem_firstOccurrences, h.mem_iff]

theorem foldl_keepNew_eq_eraseDups (xs seen : List α) :
    xs.foldl keepNew seen = seen ++ (xs.removeAll seen).eraseDups := by
  induction xs generalizing seen with
  | nil => simp
  | cons x xs ih =>
    rw [List.foldl_cons, ih, List.cons_removeAll, keepNew]
    by_cases hx : x ∈ seen
    · simp [hx]
    · have hrest : xs.removeAll (seen ++ [x]) = (xs.removeAll seen).filter (!· == x) := by
        rw [List.removeAll, List.removeAll, List.filter_filter]
        apply List.filter_congr
        intro y _
        by_cases hy : y = x <;> simp [hy]
      simp [hx, hrest, List.eraseDups_cons]

theorem firstOccurrences_eq_eraseDups (xs : List α) : firstOccurrences xs = xs.eraseDups := by
  have h := foldl_keepNew_eq_eraseDups xs []
  rw [List.removeAll_nil, List.nil_append] at h
  exact h

theorem firstOccurrences_append_new (xs ys : List α) :
    firstOccurrences (xs ++ ys) =
      firstOccurrences xs ++ (ys.removeAll (firstOccurrences xs)).eraseDups := by
  rw [firstOccurrences_append, foldl_keepNew_eq_eraseDups]

end GotoDefinition
