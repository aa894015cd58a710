import GotoDefinition.Ty.Union
import Mathlib.Data.List.DropRight

/-!
# GotoDefinition.Proofs.RoundTrip.Types

Types and unions are read back from the text that they are shown as.

Reading trims a text, drops the `\` in front of it and tells closures and native types from classes.
A type that comes out of this is `Legible`: its own text is read as the type again. A class name
that is read for itself may hold a `|`, at which the text of a union is cut; so a type read for
itself is legible only when its text has no `|`. Within a union text no alternative has one.

* `Ty.legible_of_ofTrimmed` — a type that was read from a text without `|` is legible.
* `UnionType.Legible.ofText_text` — a union of legible types is read from its own text.
* `UnionType.ofText_text_of_composed` — so is every union put together from what was read.
-/

namespace GotoDefinition

namespace Ty

/-! ## Texts of types -/

theorem toList_text_closure (f : FunctionName) :
    (closure f).text.toList =
      '\\' :: 'C' :: 'l' :: 'o' :: 's' :: 'u' :: 'r' :: 'e' :: '(' :: (f.text.toList ++ [')']) := by
  simp only [text, String.toList_append]
  rfl

theorem trim_text (t : Ty) : Text.trim t.text.toList = t.text.toList := by
  cases t with
  | native t => cases t <;> decide +kernel
  | instanceOf c => exact trim_of_isCanonical c.canonical
  | closure f =>
    apply Text.trim_eq_self
    · intro c hc
      rw [toList_text_closure] at hc
      cases hc
      decide
    · intro c hc
      rw [text, String.toList_append, String.toList_append, List.getLast?_append] at hc
      cases hc
      decide

/-- The text of a type starts neither with white space nor with the mark of a nullable type. -/
theorem exists_toList_text (t : Ty) :
    ∃ c cs, t.text.toList = c :: cs ∧ Text.isBlank c = false ∧ c ≠ '?' := by
  cases t with
  | native t => cases t <;> exact ⟨_, _, rfl, by decide, by decide⟩
  | instanceOf c =>
    obtain ⟨body, h⟩ := c.exists_toList_text
    exact ⟨_, _, h, by decide, by decide⟩
  | closure f => exact ⟨_, _, toList_text_closure f, by decide, by decide⟩

/-! ## Reading them back -/

theorem ofTrimmed_native (t : NativeType) : ofTrimmed (native t).text.toList = .ok (native t) := by
  cases t <;> rfl

theorem ofTrimmed_closure (f : FunctionName) :
    ofTrimmed (closure f).text.toList = .ok (closure f) := by
  obtain ⟨body, hbody⟩ := f.exists_toList_text
  have hopening : afterClosureOpening? (Text.dropLeading '\\' (closure f).text.toList) =
      some (f.text.toList ++ [')']) := by
    rw [toList_text_closure]
    rfl
  have hclosing : beforeClosing? (f.text.toList ++ [')']) = some f.text.toList := by
    have hblank : Text.isAllBlank f.text.toList = false := by
      rw [hbody]
      rfl
    simp [beforeClosing?, hblank]
  rw [ofTrimmed]
  · rw [hopening]
    simp only [hclosing, String.ofList_toList, Name.ofText_text]
  · rw [toList_text_closure]
    exact List.cons_ne_nil _ _

/-- A class is read back unless its name starts like a closure type. -/
theorem ofTrimmed_instanceOf {c : ClassName}
    (h : afterClosureOpening? (Text.dropLeading '\\' c.text.toList) = none) :
    ofTrimmed (instanceOf c).text.toList = .ok (instanceOf c) := by
  obtain ⟨body, hbody⟩ := c.exists_toList_text
  have htext : (instanceOf c).text = c.text := rfl
  have hbackslash : c.text.toList.contains '\\' = true := by
    rw [hbody, List.contains_cons, beq_self_eq_true, Bool.true_or]
  rw [ofTrimmed, htext]
  · simp only [h, hbackslash, if_true, String.ofList_toList, Name.ofText_text]
  · rw [htext, hbody]
    exact List.cons_ne_nil _ _

/-! ## Legible types -/

/-- The text of the type stays whole within a union text, and it is read as the type. -/
structure Legible (t : Ty) : Prop where
  unbarred : '|' ∉ t.text.toList
  reads : ofTrimmed t.text.toList = .ok t

theorem legible_native (t : NativeType) : (native t).Legible :=
  ⟨by cases t <;> decide +kernel, ofTrimmed_native t⟩

theorem mem_of_afterClosureOpening? {cs rest : List Char} {c : Char}
    (h : afterClosureOpening? cs = some rest) (hc : c ∈ rest) : c ∈ cs := by
  rw [afterClosureOpening?] at h
  split at h
  · cases h
    exact List.mem_of_mem_drop hc
  · cases h

theorem mem_of_beforeClosing? {cs body : List Char} {c : Char}
    (h : beforeClosing? cs = some body) (hc : c ∈ body) : c ∈ cs := by
  rw [beforeClosing?] at h
  split at h
  · cases h
    exact List.dropLast_subset _ hc
  · cases h

theorem unbarred_closure {body : List Char} (h : '|' ∉ body) :
    '|' ∉ (closure (Name.ofText (String.ofList body))).text.toList := by
  have hname : '|' ∉ canonical body := fun hmem => h (mem_of_mem_canonical (by decide) hmem)
  rw [toList_text_closure, Name.toList_text_ofText]
  simpa using hname

theorem legible_of_ofTrimmed {cs : List Char} {t : Ty} (hbar : '|' ∉ cs)
    (htrim : Text.trim cs = cs) (h : ofTrimmed cs = .ok t) : t.Legible := by
  rw [ofTrimmed.eq_def] at h
  split at h
  · cases h
  · split at h
    · rename_i rest hrest
      split at h
      · rename_i body hbody
        cases h
        refine ⟨unbarred_closure fun hmem => hbar ?_, ofTrimmed_closure _⟩
        have hmem' := mem_of_afterClosureOpening? hrest (mem_of_beforeClosing? hbody hmem)
        exact (Text.dropLeading_sublist '\\' cs).subset hmem'
      · cases h
    · rename_i hopening
      split at h
      · cases h
        exact legible_native _
      · cases h
        refine ⟨fun hmem => hbar ?_, ofTrimmed_instanceOf ?_⟩
        · rw [text, Name.toList_text_ofText] at hmem
          exact mem_of_mem_canonical (by decide) hmem
        · -- The canonical name starts as the text did, so it is no closure type either.
          rw [Name.toList_text_ofText, canonical, htrim, Text.dropLeading_cons_self,
            Text.dropLeading, Text.dropLeading, List.dropWhile_idempotent]
          exact hopening

theorem legible_of_ofText {s : String} {t : Ty} (hbar : '|' ∉ s.toList) (h : ofText s = .ok t) :
    t.Legible :=
  legible_of_ofTrimmed (fun hmem => hbar ((Text.trim_sublist _).subset hmem)) (Text.trim_trim _) h

end Ty

namespace UnionType

/-! ## Unions of legible types -/

/-- Every type of the union is legible. -/
def Legible (u : UnionType) : Prop :=
  ∀ t ∈ u.types, t.Legible

theorem legible_empty : empty.Legible :=
  nofun

theorem Legible.add {u : UnionType} {t : Ty} (hu : u.Legible) (ht : t.Legible) :
    (u.add t).Legible := by
  intro s hs
  rw [types_add] at hs
  split at hs
  · exact hu s hs
  · rcases List.mem_append.mp hs with hs | hs
    · exact hu s hs
    · rw [List.mem_singleton.mp hs]
      exact ht

theorem Legible.addAll {u : UnionType} {ts : List Ty} (hu : u.Legible)
    (hts : ∀ t ∈ ts, t.Legible) : (u.addAll ts).Legible := by
  induction ts generalizing u with
  | nil => exact hu
  | cons t ts ih =>
    rw [UnionType.addAll, List.foldl_cons]
    exact ih (hu.add (hts t List.mem_cons_self)) fun s hs => hts s (List.mem_cons_of_mem _ hs)

theorem Legible.addAlternative {u v : UnionType} {cs : List Char} (hu : u.Legible)
    (hbar : '|' ∉ cs) (h : u.addAlternative cs = .ok v) : v.Legible := by
  have htrimmed : '|' ∉ Text.trim cs := fun hmem => hbar ((Text.trim_sublist cs).subset hmem)
  rw [UnionType.addAlternative.eq_def] at h
  split at h
  · rename_i rest hrest
    have hrestbar : '|' ∉ Text.trim rest := by
      intro hmem
      rw [hrest] at htrimmed
      exact htrimmed (List.mem_cons_of_mem _ ((Text.trim_sublist rest).subset hmem))
    split at h
    · rename_i t ht
      cases h
      have hlegible : t.Legible := Ty.legible_of_ofTrimmed hrestbar (Text.trim_trim rest) ht
      exact (hu.add hlegible).add (Ty.legible_native .null)
    · cases h
  · split at h
    · rename_i t ht
      cases h
      exact hu.add (Ty.legible_of_ofTrimmed htrimmed (Text.trim_trim cs) ht)
    · cases h

theorem Legible.addAlternatives {u v : UnionType} {parts : List (List Char)} (hu : u.Legible)
    (hbar : ∀ cs ∈ parts, '|' ∉ cs) (h : u.addAlternatives parts = .ok v) : v.Legible := by
  induction parts generalizing u with
  | nil =>
    cases h
    exact hu
  | cons cs parts ih =>
    rw [UnionType.addAlternatives] at h
    split at h
    · rename_i w hw
      have hlegible := hu.addAlternative (hbar cs List.mem_cons_self) hw
      exact ih hlegible (fun ds hds => hbar ds (List.mem_cons_of_mem _ hds)) h
    · cases h

theorem legible_of_ofText {s : String} {u : UnionType} (h : ofText s = .ok u) : u.Legible := by
  rw [ofText, ofChars] at h
  split at h
  · cases h
    exact legible_empty
  · exact legible_empty.addAlternatives (fun _ => Text.not_mem_of_mem_segments) h

/-! ## Reading them back -/

/-- Types that are apart from each other and from those of the union are all added. -/
theorem types_addAll {u : UnionType} {ts : List Ty}
    (h : (u.types ++ ts).Pairwise fun s t => s.same t = false) :
    (u.addAll ts).types = u.types ++ ts := by
  induction ts generalizing u with
  | nil => rw [List.append_nil, addAll, List.foldl_nil]
  | cons t ts ih =>
    have hnew : u.has t = false := by
      rw [Bool.eq_false_iff, Ne, has_iff]
      rintro ⟨s, hs, hsame⟩
      have hapart := (List.pairwise_append.mp h).2.2 s hs t List.mem_cons_self
      rw [Ty.same_comm, hapart] at hsame
      cases hsame
    have hadd : (u.add t).types = u.types ++ [t] := by
      rw [types_add, hnew, if_neg Bool.false_ne_true]
    have hshift : (u.add t).types ++ ts = u.types ++ t :: ts := by
      rw [hadd, List.append_assoc, List.singleton_append]
    rw [addAll, List.foldl_cons, ← addAll, ih (by rwa [hshift]), hshift]

theorem ofList_types (u : UnionType) : ofList u.types = u := by
  apply ext_types
  rw [ofList, types_addAll, empty, List.nil_append]
  exact u.distinct

theorem addAlternative_text {t : Ty} (ht : t.Legible) (u : UnionType) :
    u.addAlternative t.text.toList = .ok (u.add t) := by
  obtain ⟨c, cs, hcs, _, hmark⟩ := t.exists_toList_text
  rw [addAlternative.eq_def, Ty.trim_text]
  split
  · rename_i hrest
    rw [hcs] at hrest
    cases hrest
    exact absurd rfl hmark
  · rw [ht.reads]

theorem addAlternatives_text {ts : List Ty} (hts : ∀ t ∈ ts, t.Legible) (u : UnionType) :
    u.addAlternatives (ts.map (·.text.toList)) = .ok (u.addAll ts) := by
  induction ts generalizing u with
  | nil => rfl
  | cons t ts ih =>
    rw [List.map_cons, addAlternatives, addAlternative_text (hts t List.mem_cons_self)]
    exact ih (fun s hs => hts s (List.mem_cons_of_mem _ hs)) _

theorem toList_text (u : UnionType) :
    u.text.toList = ['|'].intercalate (u.types.map (·.text.toList)) := by
  rw [text, String.toList_intercalate, List.map_map]
  rfl

theorem isAllBlank_text {u : UnionType} {t : Ty} {ts : List Ty} (h : u.types = t :: ts) :
    Text.isAllBlank u.text.toList = false := by
  obtain ⟨c, cs, hcs, hblank, _⟩ := t.exists_toList_text
  have hstart : ∃ rest, u.text.toList = c :: rest := by
    rw [toList_text, h, List.map_cons, hcs]
    cases ts.map (·.text.toList) with
    | nil => exact ⟨_, List.intercalate_singleton⟩
    | cons ds parts => exact ⟨_, List.intercalate_cons_cons⟩
  obtain ⟨rest, hrest⟩ := hstart
  rw [hrest, Text.isAllBlank, List.all_cons, hblank, Bool.false_and]

theorem Legible.ofText_text {u : UnionType} (hu : u.Legible) : ofText u.text = .ok u := by
  cases htypes : u.types with
  | nil =>
    have hempty : u = empty := ext_types htypes
    rw [hempty]
    rfl
  | cons t ts =>
    have hparts : Text.segments '|' u.text.toList = u.types.map (·.text.toList) := by
      rw [toList_text, Text.segments_intercalate]
      · rw [htypes]
        exact List.cons_ne_nil _ _
      · intro cs hcs
        obtain ⟨s, hs, rfl⟩ := List.mem_map.mp hcs
        exact (hu s hs).unbarred
    rw [ofText, ofChars, isAllBlank_text htypes, if_neg Bool.false_ne_true, hparts,
      addAlternatives_text hu]
    exact congrArg Except.ok u.ofList_types

end UnionType

/-! ## Unions put together from what was read -/

mutual

/-- A type that was read from a text without `|`, or taken out of a union. -/
inductive Ty.Read : Ty → Prop where
  | text {s : String} {t : Ty} (hbar : '|' ∉ s.toList) (h : Ty.ofText s = .ok t) : Ty.Read t
  | part {u : UnionType} {t : Ty} (hu : UnionType.Composed u) (ht : t ∈ u.types) : Ty.Read t

/-- A union that was read from a text, or put together from types and unions that were read. -/
inductive UnionType.Composed : UnionType → Prop where
  | empty : UnionType.Composed .empty
  | text {s : String} {u : UnionType} (h : UnionType.ofText s = .ok u) : UnionType.Composed u
  | ofList {ts : List Ty} (hts : ∀ t ∈ ts, Ty.Read t) : UnionType.Composed (.ofList ts)
  | add {u : UnionType} {t : Ty} (hu : UnionType.Composed u) (ht : Ty.Read t) :
      UnionType.Composed (u.add t)
  | merge {u v : UnionType} (hu : UnionType.Composed u) (hv : UnionType.Composed v) :
      UnionType.Composed (u.merge v)

end

mutual

theorem Ty.Read.legible {t : Ty} : t.Read → t.Legible
  | .text hbar h => Ty.legible_of_ofText hbar h
  | .part hu ht => hu.legible _ ht

/-- Each way of putting a union together keeps its types legible. -/
theorem UnionType.Composed.legible {u : UnionType} : u.Composed → u.Legible
  | .empty => UnionType.legible_empty
  | .text h => UnionType.legible_of_ofText h
  | .ofList hts => UnionType.legible_empty.addAll fun t ht => (hts t ht).legible
  | .add hu ht => hu.legible.add ht.legible
  | .merge hu hv => hu.legible.addAll hv.legible

end

namespace UnionType

/-- A union that was put together from what was read is read from its own text, with the same types
in the same order and spelling. So its text tells it from every other such union. -/
theorem ofText_text_of_composed {u : UnionType} (hu : u.Composed) :
    ofText u.text = .ok u ∧ ∀ v : UnionType, v.Composed → v.text = u.text → v = u := by
  have hread := hu.legible.ofText_text
  refine ⟨hread, fun v hv htext => ?_⟩
  have hread' := hv.legible.ofText_text
  rw [htext, hread] at hread'
  exact (Except.ok.inj hread').symm

namespace Unusual

/-- `Closure(a))` -/
def closing : Ty :=
  .closure (Name.ofText "a)")

/-- `? \ Post` -/
def nullable : UnionType :=
  ofList [.instanceOf (Name.ofText "\\ Post"), .native .null]

/-- `CLOSURE(A))` is there already when it is added. -/
def mixed : UnionType :=
  ((ofList [closing]).merge nullable).add (.closure (Name.ofText "A)"))

end Unusual

open Unusual in
/-- Unusual texts that are accepted are shown as texts that are read in the same way. -/
theorem ofText_text_mixed :
    mixed.Composed ∧ mixed.text = "\\Closure(\\a))|\\ Post|null" ∧
      ofText mixed.text = .ok mixed := by
  have hclosing : Ty.Read closing := .text (s := "Closure(a))") (by decide) (by rfl)
  have hagain : Ty.Read (.closure (Name.ofText "A)")) :=
    .text (s := "\\CLOSURE( \\A))") (by decide) (by rfl)
  have hnullable : nullable.Composed := .text (s := " ? \\ Post") (by rfl)
  have hmixed : mixed.Composed := by
    refine .add (.merge (.ofList fun t ht => ?_) hnullable) hagain
    rw [List.mem_singleton.mp ht]
    exact hclosing
  exact ⟨hmixed, by decide +kernel, (ofText_text_of_composed hmixed).1⟩

namespace Barred

/-- What `A|\B` is when it is read as one type. -/
def oneClass : UnionType :=
  ofList [.instanceOf (Name.ofText "A|\\B")]

/-- What it is when it is read as a union. -/
def twoClasses : UnionType :=
  ofList [.instanceOf (Name.ofText "A"), .instanceOf (Name.ofText "B")]

end Barred

open Barred in
/-- With a `|` in a type that was read for itself, the text of a union may be that of another. -/
theorem ofText_text_barred :
    (∃ t, Ty.ofText "A|\\B" = .ok t ∧ oneClass = ofList [t]) ∧
      ofText oneClass.text = .ok twoClasses ∧ twoClasses ≠ oneClass ∧
      twoClasses.text = oneClass.text :=
  ⟨⟨_, rfl, rfl⟩, by rfl, by decide +kernel, by decide +kernel⟩

end UnionType

end GotoDefinition
