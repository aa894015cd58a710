import GotoDefinition.Proofs.RoundTrip.Types
import GotoDefinition.Proofs.UnionText.Merging

/-!
# GotoDefinition.Proofs.UnionLaws

Unions that are gathered in any number of steps.

Every step puts types behind those that are there, and of these only the ones that are new in every
spelling. So it does not matter in which steps a union came about: it has all the types that were
ever brought in, each in the place and spelling in which it came first. Merging is then a matter of
what was brought in on both sides, which makes it a monoid in which merging again changes nothing.

* `types_merge` — what one merging puts behind the types that are there.
* `Gathers.eq_ofList` — any number of steps against one.
* `merge_assoc`, `empty_merge`, `merge_self`, `merge_again` — the laws of merging.
* `gathered_laws` — all of it for unions that are gathered in any way.
-/

namespace GotoDefinition

namespace UnionType

/-! ## One step -/

theorem types_add_eq (u : UnionType) (t : Ty) :
    (u.add t).types = u.types ++ if u.has t then [] else [t] := by
  rw [types_add]
  split
  · exact (List.append_nil _).symm
  · rfl

/-- Of types no two of which are the same, those are added that the union does not have. -/
theorem types_addAll_distinct {ts : List Ty} (h : ts.Pairwise fun s t => s.same t = false)
    (u : UnionType) : (u.addAll ts).types = u.types ++ ts.filter fun t => !u.has t := by
  induction h generalizing u with
  | nil => exact (List.append_nil _).symm
  | @cons t ts hapart _ ih =>
    -- None of the types behind `t` is `t`, so adding it does not decide about them.
    have hrest : (ts.filter fun s => !(u.add t).has s) = ts.filter fun s => !u.has s := by
      refine List.filter_congr fun s hs => ?_
      rw [has_add, Ty.same_comm, hapart s hs, Bool.or_false]
    have hstep : (u.addAll (t :: ts)).types = ((u.add t).addAll ts).types := rfl
    rw [hstep, ih, hrest, types_add_eq, List.append_assoc, List.filter_cons]
    cases u.has t <;> rfl

theorem types_merge (u v : UnionType) :
    (u.merge v).types = u.types ++ v.types.filter fun t => !u.has t :=
  types_addAll_distinct v.distinct u

/-- Types that are there in some spelling change nothing. -/
theorem merge_of_subset {u v : UnionType} (h : ∀ t ∈ v.types, u.has t = true) : u.merge v = u := by
  have hnone : (v.types.filter fun t => !u.has t) = [] := by
    rw [List.filter_eq_nil_iff]
    intro t ht
    simp [h t ht]
  apply ext_types
  rw [types_merge, hnone, List.append_nil]

theorem has_of_mem {u : UnionType} {t : Ty} (h : t ∈ u.types) : u.has t = true :=
  has_iff.mpr ⟨t, h, Ty.same_refl t⟩

/-! ## The monoid -/

theorem merge_empty (u : UnionType) : u.merge empty = u :=
  merge_of_subset nofun

theorem empty_merge (u : UnionType) : empty.merge u = u :=
  ofList_types u

theorem merge_assoc (u v w : UnionType) : (u.merge v).merge w = u.merge (v.merge w) :=
  (merge_addAll u v w.types).symm

theorem merge_self (u : UnionType) : u.merge u = u :=
  merge_of_subset fun _ => has_of_mem

theorem merge_again (u v : UnionType) : (u.merge v).merge v = u.merge v := by
  rw [merge_assoc, merge_self]

/-! ## Any number of steps -/

/-- The types, in this order, were brought into the union, by whatever steps. A text brings in the
types that it is read as. -/
inductive Gathers : List Ty → UnionType → Prop where
  | ofList (ts : List Ty) : Gathers ts (.ofList ts)
  | text {s : String} {u : UnionType} (h : ofText s = .ok u) : Gathers u.types u
  | add {ts : List Ty} {u : UnionType} (h : Gathers ts u) (t : Ty) : Gathers (ts ++ [t]) (u.add t)
  | merge {ss ts : List Ty} {u v : UnionType} (hu : Gathers ss u) (hv : Gathers ts v) :
      Gathers (ss ++ ts) (u.merge v)

theorem ofList_append (ss ts : List Ty) : ofList (ss ++ ts) = (ofList ss).addAll ts :=
  addAll_append empty ss ts

/-- Any number of steps come to the same as adding one type after the other. -/
theorem Gathers.eq_ofList {ts : List Ty} {u : UnionType} (h : Gathers ts u) : u = .ofList ts := by
  induction h with
  | ofList ts => rfl
  | @text s u h => exact (ofList_types u).symm
  | add _ t ih =>
    rw [ih, ofList_append]
    rfl
  | merge _ _ ihu ihv => rw [ihu, ihv, ofList_append, merge_ofList]

theorem Gathers.types_eq {ts : List Ty} {u : UnionType} (h : Gathers ts u) :
    u.types = ts.eraseDupsBy Ty.same := by
  rw [h.eq_ofList, types_ofList]

theorem Gathers.has_eq {ts : List Ty} {u : UnionType} (h : Gathers ts u) (s : Ty) :
    u.has s = ts.any s.same := by
  rw [h.eq_ofList]
  exact has_addAll empty ts s

/-- A union that was gathered in any way has the types that were brought in, each where it came
first and as it was spelled there, and no two that are the same. Adding and merging keep these types
in front and put those behind them that are new; what is there then was there before or was
brought in. Merging is associative and has the empty union for its identity on both sides, and what
has been merged already changes nothing when it is merged again. -/
theorem gathered_laws {ss : List Ty} {u : UnionType} (hu : Gathers ss u) :
    u.types = ss.eraseDupsBy Ty.same ∧
    u.types.Pairwise (fun s t => s.same t = false) ∧
    (∀ s, u.has s = ss.any s.same) ∧
    (∀ t, (u.add t).types = (u.types ++ if u.has t then [] else [t]) ∧
      ∀ s, (u.add t).has s = (u.has s || s.same t)) ∧
    u.merge empty = u ∧ empty.merge u = u ∧ u.merge u = u ∧
    ∀ v : UnionType,
      ((u.merge v).types = u.types ++ v.types.filter fun t => !u.has t) ∧
      (∀ s, (u.merge v).has s = (u.has s || v.has s)) ∧
      (u.merge v).merge v = u.merge v ∧
      ∀ w, (u.merge v).merge w = u.merge (v.merge w) := by
  refine ⟨hu.types_eq, u.distinct, hu.has_eq, fun t => ⟨types_add_eq u t, fun s => has_add u s t⟩,
    merge_empty u, empty_merge u, merge_self u, fun v => ?_⟩
  exact ⟨types_merge u v, has_merge u v, merge_again u v, merge_assoc u v⟩

namespace Spellings

def upper : Ty :=
  .instanceOf (Name.ofText "Post")

def lower : Ty :=
  .instanceOf (Name.ofText "post")

/-- `?post|int` -/
def read : UnionType :=
  ofList [lower, .native .null, .native .int]

/-- `Post` was there when `?post|int` was merged in, and `null` when it was added. -/
def mixed : UnionType :=
  ((ofList [upper]).merge read).add (.native .null)

end Spellings

open Spellings in
/-- One class comes twice in the steps, in two spellings, and `null` as well. -/
theorem gathered_laws_spellings :
    Gathers ([upper] ++ read.types ++ [.native .null]) mixed ∧
    mixed.types = [upper, .native .null, .native .int] ∧
    mixed.has lower = true ∧
    (mixed.merge read).types = mixed.types ∧ read.merge mixed ≠ mixed.merge read := by
  have hread : Gathers read.types read := .text (s := "?post|int") (by rfl)
  have hmixed : Gathers ([upper] ++ read.types ++ [.native .null]) mixed :=
    ((Gathers.ofList [upper]).merge hread).add (.native .null)
  obtain ⟨htypes, _, hhas, _, _, _, _, hmerge⟩ := gathered_laws hmixed
  refine ⟨hmixed, htypes.trans (by decide +kernel), (hhas lower).trans (by decide +kernel), ?_,
    by decide +kernel⟩
  rw [(hmerge read).1]
  decide +kernel

end UnionType

end GotoDefinition
