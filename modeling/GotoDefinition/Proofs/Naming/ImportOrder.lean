import GotoDefinition.Context
import GotoDefinition.Proofs.Naming.Aliases
import GotoDefinition.Proofs.Naming.ByteOrder
import Mathlib.Data.List.Induction
import Mathlib.Data.List.Nodup

/-!
# GotoDefinition.Proofs.Naming.ImportOrder

What the imports of a file come to, whatever the order in which they were made.

The table has each alias once, with the target that it was given last. An alias is looked up as it
is written, and failing that, the smallest alias is taken that agrees with it in any case; the bytes
of the aliases decide which is the smallest. Nothing here depends on when an alias was first given,
so imports under different aliases can be made in any order.

* `Imports.mem_insertAll` — the entries after any number of imports.
* `Imports.insertAll_perm` — imports in another order.
* `Context.imports_by_last_target` — lookups and names in a context with any run of imports.
-/

namespace GotoDefinition

namespace Imports

/-! ## One import -/

variable {is js : Imports} {key target : String} {es : List (String × String)}

theorem mem_insertEntry_iff (hascending : es.Pairwise fun e f => e.1 < f.1) {e : String × String} :
    e ∈ insertEntry key target es ↔ e = (key, target) ∨ e ∈ es ∧ e.1 ≠ key := by
  induction es with
  | nil => simp [insertEntry]
  | cons f es ih =>
    obtain ⟨a, t⟩ := f
    obtain ⟨hhead, htail⟩ := List.pairwise_cons.mp hascending
    have hnone : a = key ∨ key < a → ∀ e ∈ es, e.1 ≠ key := by
      rintro (rfl | hlt) e he
      · exact (String.ne_of_lt (hhead e he)).symm
      · exact (String.ne_of_lt (String.lt_trans hlt (hhead e he))).symm
    rw [insertEntry]
    split
    · rename_i hlt
      have hne : ∀ e ∈ (a, t) :: es, e.1 ≠ key :=
        List.forall_mem_cons.mpr ⟨(String.ne_of_lt hlt).symm, hnone (.inr hlt)⟩
      rw [List.mem_cons, and_iff_left_of_imp (hne e)]
    · split
      · rename_i heq
        have hne := hnone (.inl heq.symm)
        grind
      · rename_i hne
        rw [List.mem_cons, ih htail]
        grind

theorem mem_insert {e : String × String} :
    e ∈ (is.insert key target).entries ↔ e = (key, target) ∨ e ∈ is.entries ∧ e.1 ≠ key :=
  mem_insertEntry_iff is.ascending

/-- Tables with the same entries are equal, since these stand in the order of their aliases. -/
theorem ext_mem (h : ∀ e, e ∈ is.entries ↔ e ∈ js.entries) : is = js := by
  have hnodup : ∀ ks : Imports, ks.entries.Nodup := fun ks =>
    ks.ascending.imp fun hlt heq => String.ne_of_lt hlt (congrArg Prod.fst heq)
  have hperm : is.entries.Perm js.entries :=
    (List.perm_ext_iff_of_nodup (hnodup is) (hnodup js)).mpr h
  apply ext_entries
  refine hperm.eq_of_pairwise (fun e f _ _ hef hfe => ?_) is.ascending js.ascending
  exact absurd hfe (String.lt_asymm hef)

theorem insert_comm {a b : String} (hne : a ≠ b) (s t : String) (is : Imports) :
    (is.insert a s).insert b t = (is.insert b t).insert a s := by
  apply ext_mem
  intro e
  simp only [mem_insert]
  constructor
  · rintro (rfl | ⟨rfl | ⟨he, ha⟩, hb⟩)
    · exact .inr ⟨.inl rfl, hne.symm⟩
    · exact .inl rfl
    · exact .inr ⟨.inr ⟨he, hb⟩, ha⟩
  · rintro (rfl | ⟨rfl | ⟨he, hb⟩, ha⟩)
    · exact .inr ⟨.inl rfl, hne⟩
    · exact .inl rfl
    · exact .inr ⟨.inr ⟨he, ha⟩, hb⟩

/-! ## The last target of an alias -/

/-- No later entry is about the alias. -/
inductive LastGiven : List (String × String) → String → String → Prop where
  | mk (before : List (String × String)) {after : List (String × String)} {key : String}
      (target : String) (hafter : ∀ e ∈ after, e.1 ≠ key) :
      LastGiven (before ++ (key, target) :: after) key target

theorem lastGiven_concat {e : String × String} :
    LastGiven (es ++ [e]) key target ↔ e = (key, target) ∨ LastGiven es key target ∧ e.1 ≠ key := by
  constructor
  · intro h
    generalize hes : es ++ [e] = fs at h
    obtain ⟨before, _, hafter⟩ := h
    rename_i after
    rcases List.eq_nil_or_concat' after with rfl | ⟨after, f, rfl⟩
    · obtain ⟨_, hlast⟩ := List.append_inj' hes rfl
      exact .inl (List.head_eq_of_cons_eq hlast)
    · rw [← List.cons_append, ← List.append_assoc] at hes
      obtain ⟨rfl, hlast⟩ := List.append_inj' hes rfl
      cases hlast
      refine .inr ⟨.mk before target fun g hg => ?_, ?_⟩
      · exact hafter g (List.mem_append_left _ hg)
      · exact hafter e (List.mem_append_right _ List.mem_cons_self)
  · rintro (rfl | ⟨⟨before, _, hafter⟩, hne⟩)
    · exact .mk es target nofun
    · rw [List.append_assoc, List.cons_append]
      refine .mk before target fun f hf => ?_
      rcases List.mem_append.mp hf with hf | hf
      · exact hafter f hf
      · rw [List.mem_singleton.mp hf]
        exact hne

theorem LastGiven.mem (h : LastGiven es key target) : (key, target) ∈ es := by
  cases h with
  | mk before _ hafter => exact List.mem_append_right _ List.mem_cons_self

theorem exists_lastGiven {e : String × String} (h : e ∈ es) :
    ∃ target, LastGiven es e.1 target := by
  induction es using List.reverseRecOn with
  | nil => cases h
  | append_singleton es f ih =>
    by_cases hkey : f.1 = e.1
    · exact ⟨f.2, lastGiven_concat.mpr (.inl (Prod.ext hkey rfl))⟩
    · rcases List.mem_append.mp h with h | h
      · obtain ⟨target, htarget⟩ := ih h
        exact ⟨target, lastGiven_concat.mpr (.inr ⟨htarget, hkey⟩)⟩
      · exact absurd (congrArg Prod.fst (List.mem_singleton.mp h)).symm hkey

/-- In a table each alias is there once, and so for the last time. -/
theorem lastGiven_entries : LastGiven is.entries key target ↔ (key, target) ∈ is.entries := by
  refine ⟨LastGiven.mem, fun h => ?_⟩
  obtain ⟨before, after, hentries⟩ := List.append_of_mem h
  have hascending := is.ascending
  rw [hentries] at hascending ⊢
  obtain ⟨_, hafter, _⟩ := List.pairwise_append.mp hascending
  refine .mk before target fun e he => ?_
  exact (String.ne_of_lt (List.rel_of_pairwise_cons hafter he)).symm

/-! ## Any number of imports -/

/-- Imports made one after the other. -/
def insertAll (is : Imports) (es : List (String × String)) : Imports :=
  es.foldl (fun is e => is.insert e.1 e.2) is

theorem insertAll_concat (is : Imports) (es : List (String × String)) (e : String × String) :
    is.insertAll (es ++ [e]) = (is.insertAll es).insert e.1 e.2 :=
  List.foldl_concat _ _ _ _

/-- Each alias has the target that it was given last. -/
theorem mem_insertAll :
    (key, target) ∈ (is.insertAll es).entries ↔ LastGiven (is.entries ++ es) key target := by
  induction es using List.reverseRecOn with
  | nil => rw [List.append_nil, lastGiven_entries]; rfl
  | append_singleton es e ih =>
    rw [insertAll_concat, mem_insert, ih, ← List.append_assoc, lastGiven_concat, eq_comm]
    have hkey : (key, target).1 ≠ e.1 ↔ e.1 ≠ key := ne_comm
    rw [hkey]

/-- The aliases are those that were ever given. -/
theorem forall_insertAll {p : String → Prop} :
    (∀ e ∈ (is.insertAll es).entries, p e.1) ↔ ∀ e ∈ is.entries ++ es, p e.1 := by
  constructor
  · intro h e he
    obtain ⟨target, htarget⟩ := exists_lastGiven he
    exact h (e.1, target) (mem_insertAll.mpr htarget)
  · intro h e he
    exact h e (mem_insertAll.mp he).mem

theorem insertAll_perm {fs : List (String × String)} (h : fs.Perm es)
    (hdistinct : (es.map Prod.fst).Nodup) (is : Imports) : is.insertAll fs = is.insertAll es := by
  refine (h.symm.foldl_eq' (fun e he f hf is => ?_) is).symm
  by_cases hef : e = f
  · rw [hef]
  · have hne : e.1 ≠ f.1 := fun heq => hef (List.inj_on_of_nodup_map hdistinct he hf heq)
    exact insert_comm hne e.2 f.2 is

/-- What an alias stands for after some imports. Without an import under this very alias, the one
with the smallest bytes counts that agrees with it in any case. -/
inductive Settles (es : List (String × String)) (key : String) : String → Prop where
  | exact {target : String} (h : LastGiven es key target) : Settles es key target
  | folded {least target : String} (hexact : ∀ e ∈ es, e.1 ≠ key) (h : LastGiven es least target)
      (halike : Text.alike least key = true)
      (hleast : ∀ e ∈ es, Text.alike e.1 key = true → Text.bytes least ≤ Text.bytes e.1) :
      Settles es key target

theorem gives_insertAll_iff :
    (is.insertAll es).Gives key target ↔ Settles (is.entries ++ es) key target := by
  have hne : (∀ e ∈ (is.insertAll es).entries, e.1 ≠ key) ↔ ∀ e ∈ is.entries ++ es, e.1 ≠ key :=
    forall_insertAll (p := (· ≠ key))
  have hleast : ∀ least, (∀ e ∈ (is.insertAll es).entries, Text.alike e.1 key = true →
      least ≤ e.1) ↔ ∀ e ∈ is.entries ++ es, Text.alike e.1 key = true →
        Text.bytes least ≤ Text.bytes e.1 := by
    intro least
    simp only [Text.bytes_le_iff]
    exact forall_insertAll (p := fun a => Text.alike a key = true → least ≤ a)
  constructor
  · intro h
    cases h with
    | exact h => exact .exact (mem_insertAll.mp h)
    | folded hexact h halike hsmallest =>
      exact .folded (hne.mp hexact) (mem_insertAll.mp h) halike ((hleast _).mp hsmallest)
  · intro h
    cases h with
    | exact h => exact .exact (mem_insertAll.mpr h)
    | folded hexact h halike hsmallest =>
      exact .folded (hne.mpr hexact) (mem_insertAll.mpr h) halike ((hleast _).mpr hsmallest)

end Imports

/-! ## Contexts -/

namespace Context

/-- Imports made one after the other. -/
def withImports (ctx : Context) (es : List (String × String)) : Context :=
  es.foldl (fun ctx e => ctx.withImport e.1 e.2) ctx

/-- The imports of the context, and behind them some more, whose targets lose the `\`s in front. -/
def imported (ctx : Context) (es : List (String × String)) : List (String × String) :=
  ctx.imports.entries ++ es.map fun e => (e.1, stripBackslashes e.2)

theorem withImports_eq (ctx : Context) (es : List (String × String)) :
    ctx.withImports es =
      { ctx with
        imports := ctx.imports.insertAll (es.map fun e => (e.1, stripBackslashes e.2)) } := by
  induction es generalizing ctx with
  | nil => rfl
  | cons e es ih => exact ih (ctx.withImport e.1 e.2)

theorem withImports_perm {es fs : List (String × String)} (h : fs.Perm es)
    (hdistinct : (es.map Prod.fst).Nodup) (ctx : Context) :
    ctx.withImports fs = ctx.withImports es := by
  have hdistinct' : ((es.map fun e => (e.1, stripBackslashes e.2)).map Prod.fst).Nodup := by
    rwa [List.map_map]
  rw [withImports_eq, withImports_eq, Imports.insertAll_perm (h.map _) hdistinct']

/-- After any run of imports an alias stands for the target that it was given last. An alias that
was never given as it is written stands for the last target of the alias with the smallest bytes
that agrees with it up to the case of ASCII letters, and for nothing if there is none. The same
imports in another order lead to the same context, and so to the same classes, functions and
constants for every name, if no two are under the same alias. -/
theorem imports_by_last_target (ctx : Context) (es : List (String × String)) :
    (∀ key target, (ctx.withImports es).imports.find? key = some target ↔
      Imports.Settles (ctx.imported es) key target) ∧
    (∀ key, (ctx.withImports es).imports.find? key = none ↔
      ∀ e ∈ ctx.imported es, Text.alike e.1 key = false) ∧
    ∀ fs, fs.Perm es → (es.map Prod.fst).Nodup →
      ctx.withImports fs = ctx.withImports es ∧
      ∀ name, (ctx.withImports fs).resolveClass name = (ctx.withImports es).resolveClass name ∧
        (ctx.withImports fs).candidates name = (ctx.withImports es).candidates name := by
  refine ⟨fun key target => ?_, fun key => ?_, fun fs h hdistinct => ?_⟩
  · rw [withImports_eq, Imports.find?_eq_some_iff]
    exact Imports.gives_insertAll_iff
  · rw [withImports_eq, Imports.find?_eq_none_iff]
    exact Imports.forall_insertAll (p := fun a => Text.alike a key = false)
  · have hsame := withImports_perm h hdistinct ctx
    exact ⟨hsame, fun name => ⟨by rw [hsame], by rw [hsame]⟩⟩

namespace Mailers

/-- Two aliases that differ in case alone, one of them with a target that is given up. -/
def repeated : List (String × String) :=
  [("Mail", "Old\\Mail"), ("MAIL", "\\Legacy\\Mail"), ("Mail", "Vendor\\Mail")]

def distinct : List (String × String) :=
  [("MAIL", "\\Legacy\\Mail"), ("Mail", "Vendor\\Mail")]

def reversed : List (String × String) :=
  [("Mail", "Vendor\\Mail"), ("MAIL", "\\Legacy\\Mail")]

end Mailers

open Mailers in
/-- For `mail` the capital letters decide, which come first. -/
theorem imports_by_last_target_mail :
    (empty.withImports repeated).imports.find? "Mail" = some "Vendor\\Mail" ∧
    (empty.withImports repeated).imports.find? "mail" = some "Legacy\\Mail" ∧
    (empty.withImports repeated).imports.find? "Post" = none ∧
    reversed.Perm distinct ∧ (distinct.map Prod.fst).Nodup ∧
    empty.withImports reversed = empty.withImports distinct := by
  obtain ⟨hsome, hnone, _⟩ := imports_by_last_target empty repeated
  have hperm : reversed.Perm distinct := by decide
  have hdistinct : (distinct.map Prod.fst).Nodup := by decide
  have hexact : Imports.LastGiven (empty.imported repeated) "Mail" "Vendor\\Mail" :=
    .mk [("Mail", "Old\\Mail"), ("MAIL", "Legacy\\Mail")] _ nofun
  have hcapital : Imports.LastGiven (empty.imported repeated) "MAIL" "Legacy\\Mail" :=
    .mk [("Mail", "Old\\Mail")] _ (by decide)
  refine ⟨(hsome _ _).mpr (.exact hexact), (hsome _ _).mpr ?_, (hnone _).mpr (by decide +kernel),
    hperm, hdistinct, ((imports_by_last_target empty distinct).2.2 _ hperm hdistinct).1⟩
  exact .folded (by decide +kernel) hcapital (by decide +kernel) (by decide +kernel)

end Context

end GotoDefinition
