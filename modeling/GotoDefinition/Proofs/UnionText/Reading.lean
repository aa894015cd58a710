import GotoDefinition.Proofs.Run
import GotoDefinition.Proofs.UnionText.Grammar

/-!
# GotoDefinition.Proofs.UnionText.Reading

Which texts are unions, and which unions they are.

A union text is cut at every `|` into alternatives. An alternative has a core, which has to be a
type, and a `?` in front of the core adds `null` behind this type. Reading goes from alternative to
alternative until one fails; so it comes to the types of all alternatives, each where it first
occurs, or to the core of the first alternative that is no type.

* `readAlternative_eq_ok_iff`, `readAlternative_eq_error_iff` — one alternative against the grammar.
* `addAlternatives_eq` — a run over alternatives, as their types one after the other.
* `types_ofList` — a union of types keeps each where it first occurs.
* `ofText_grammar` — the accepted texts, what they are read as, and why others are not accepted.
-/

namespace GotoDefinition

namespace UnionType

/-! ## Alternatives -/

/-- An alternative is a core with white space around it, which may have a `?` in front of it and
white space between the two. -/
inductive Alternative : List Char → Bool → List Char → Prop where
  | plain {part core : List Char} (h : Text.Padded core part) (hmark : core.head? ≠ some '?') :
      Alternative part false core
  | marked {part rest core : List Char} (h : Text.Padded ('?' :: rest) part)
      (hrest : Text.Padded core rest) : Alternative part true core

/-- Whether an alternative has a `?`, and its core. -/
def markAndCore (part : List Char) : Bool × List Char :=
  match Text.trim part with
  | '?' :: rest => (true, Text.trim rest)
  | core => (false, core)

theorem markAndCore_marked {part rest : List Char} (h : Text.trim part = '?' :: rest) :
    markAndCore part = (true, Text.trim rest) := by
  simp only [markAndCore, h]

theorem markAndCore_plain {part : List Char} (h : ∀ rest, Text.trim part ≠ '?' :: rest) :
    markAndCore part = (false, Text.trim part) := by
  rw [markAndCore]
  split
  · rename_i rest hpart
    exact absurd hpart (h rest)
  · rfl

theorem alternative_markAndCore (part : List Char) :
    Alternative part (markAndCore part).1 (markAndCore part).2 := by
  by_cases h : ∃ rest, Text.trim part = '?' :: rest
  · obtain ⟨rest, hrest⟩ := h
    rw [markAndCore_marked hrest]
    exact .marked (Text.trim_eq_iff.mp hrest) (Text.padded_trim rest)
  · rw [not_exists] at h
    rw [markAndCore_plain h]
    refine .plain (Text.padded_trim part) fun hmark => ?_
    obtain ⟨rest, hrest⟩ := List.head?_eq_some_iff.mp hmark
    exact h rest hrest

theorem Alternative.markAndCore_eq {part core : List Char} {mark : Bool}
    (h : Alternative part mark core) : markAndCore part = (mark, core) := by
  cases h with
  | plain h hmark =>
    rw [markAndCore_plain, h.trim_eq]
    intro rest hrest
    rw [h.trim_eq] at hrest
    rw [hrest] at hmark
    exact hmark rfl
  | marked h hrest => rw [markAndCore_marked h.trim_eq, hrest.trim_eq]

/-- The core of the alternative is a type. -/
def Accepted (part : List Char) : Prop :=
  ∃ mark core, Alternative part mark core ∧ Ty.WellFormed core

/-- The types that an alternative stands for. -/
inductive Denotes : List Char → List Ty → Prop where
  | plain {part core : List Char} {t : Ty} (h : Alternative part false core)
      (ht : Ty.Written core t) : Denotes part [t]
  | marked {part core : List Char} {t : Ty} (h : Alternative part true core)
      (ht : Ty.Written core t) : Denotes part [t, .native .null]

/-! ## Reading one alternative -/

def withNull (mark : Bool) (t : Ty) : List Ty :=
  if mark then [t, .native .null] else [t]

/-- The types that reading an alternative adds to a union. -/
def readAlternative (part : List Char) : Except TypeError (List Ty) :=
  (Ty.ofTrimmed (markAndCore part).2).map (withNull (markAndCore part).1)

theorem readAlternative_of_alternative {part core : List Char} {mark : Bool}
    (h : Alternative part mark core) :
    readAlternative part = (Ty.ofTrimmed core).map (withNull mark) := by
  rw [readAlternative, h.markAndCore_eq]

theorem addAlternative_eq (u : UnionType) (part : List Char) :
    u.addAlternative part = (readAlternative part).map u.addAll := by
  rw [addAlternative.eq_def]
  split
  · rename_i rest hrest
    rw [readAlternative, markAndCore_marked hrest, Ty.ofChars]
    cases Ty.ofTrimmed (Text.trim rest) <;> rfl
  · rename_i hplain
    rw [readAlternative, markAndCore_plain hplain]
    cases Ty.ofTrimmed (Text.trim part) <;> rfl

theorem readAlternative_eq_ok_iff {part : List Char} {ts : List Ty} :
    readAlternative part = .ok ts ↔ Denotes part ts := by
  constructor
  · intro h
    have halternative := alternative_markAndCore part
    generalize (markAndCore part).1 = mark, (markAndCore part).2 = core at halternative
    rw [readAlternative_of_alternative halternative] at h
    cases hread : Ty.ofTrimmed core with
    | error e =>
      rw [hread] at h
      cases h
    | ok t =>
      have hwritten := Ty.ofTrimmed_eq_ok_iff.mp hread
      rw [hread] at h
      cases h
      cases mark with
      | false => exact .plain halternative hwritten
      | true => exact .marked halternative hwritten
  · intro h
    cases h with
    | plain h ht => rw [readAlternative_of_alternative h, ht.ofTrimmed_eq]; rfl
    | marked h ht => rw [readAlternative_of_alternative h, ht.ofTrimmed_eq]; rfl

theorem readAlternative_eq_error_iff {part : List Char} {e : TypeError} :
    readAlternative part = .error e ↔
      ∃ mark core, Alternative part mark core ∧ ¬Ty.WellFormed core ∧ e = ⟨String.ofList core⟩ := by
  have hread : ∀ {mark core}, Alternative part mark core →
      (readAlternative part = .error e ↔ Ty.ofTrimmed core = .error e) := by
    intro mark core h
    rw [readAlternative_of_alternative h, map_eq_error_iff]
  constructor
  · intro h
    have halternative := alternative_markAndCore part
    generalize (markAndCore part).1 = mark, (markAndCore part).2 = core at halternative
    exact ⟨mark, core, halternative, Ty.ofTrimmed_eq_error_iff.mp ((hread halternative).mp h)⟩
  · rintro ⟨mark, core, halternative, herror⟩
    exact (hread halternative).mpr (Ty.ofTrimmed_eq_error_iff.mpr herror)

theorem accepted_iff {part : List Char} : Accepted part ↔ ∃ ts, readAlternative part = .ok ts := by
  constructor
  · rintro ⟨mark, core, halternative, hwell⟩
    obtain ⟨t, ht⟩ := Ty.wellFormed_iff.mp hwell
    exact ⟨_, by rw [readAlternative_of_alternative halternative, ht.ofTrimmed_eq]; rfl⟩
  · rintro ⟨ts, hread⟩
    cases readAlternative_eq_ok_iff.mp hread with
    | plain h ht => exact ⟨_, _, h, Ty.wellFormed_iff.mpr ⟨_, ht⟩⟩
    | marked h ht => exact ⟨_, _, h, Ty.wellFormed_iff.mpr ⟨_, ht⟩⟩

/-! ## Reading all alternatives -/

theorem addAll_append (u : UnionType) (ss ts : List Ty) :
    u.addAll (ss ++ ts) = (u.addAll ss).addAll ts :=
  List.foldl_append

/-- Reading a run of alternatives adds their types one after the other. -/
theorem addAlternatives_eq (u : UnionType) (parts : List (List Char)) :
    u.addAlternatives parts =
      (allOrFirstError (parts.map readAlternative)).map fun tss => u.addAll tss.flatten := by
  induction parts generalizing u with
  | nil => rfl
  | cons part parts ih =>
    rw [addAlternatives, addAlternative_eq, List.map_cons]
    cases readAlternative part with
    | error e => rfl
    | ok ts =>
      rw [Except.map, allOrFirstError]
      refine (ih (u.addAll ts)).trans ?_
      cases allOrFirstError (parts.map readAlternative) with
      | error e => rfl
      | ok tss => exact congrArg Except.ok (addAll_append u ts tss.flatten).symm

theorem ofText_of_blank {s : String} (h : Text.Blank s.toList) : ofText s = .ok empty := by
  rw [ofText, ofChars, if_pos (Text.isAllBlank_iff.mpr h)]

theorem ofText_of_not_blank {s : String} (h : ¬Text.Blank s.toList) :
    ofText s = (allOrFirstError ((s.toList.splitOn '|').map readAlternative)).map fun tss =>
      ofList tss.flatten := by
  rw [ofText, ofChars, if_neg (mt Text.isAllBlank_iff.mp h), addAlternatives_eq,
    Text.segments_eq_splitOn]
  rfl

/-! ## First occurrences -/

theorem types_addAll_eq_loop (u : UnionType) (ts : List Ty) :
    (u.addAll ts).types = List.eraseDupsBy.loop Ty.same ts u.types.reverse := by
  induction ts generalizing u with
  | nil => rw [List.eraseDupsBy.loop, List.reverse_reverse]; rfl
  | cons t ts ih =>
    have hhas : u.types.reverse.any t.same = u.has t := List.any_reverse
    rw [List.eraseDupsBy.loop, hhas]
    refine (ih (u.add t)).trans ?_
    rw [types_add]
    cases u.has t with
    | true => rfl
    | false => rw [if_neg Bool.false_ne_true, List.reverse_append]; rfl

/-- A type is kept where it first occurs in some spelling. -/
theorem types_ofList (ts : List Ty) : (ofList ts).types = ts.eraseDupsBy Ty.same :=
  types_addAll_eq_loop empty ts

/-! ## Union texts -/

variable {s : String}

theorem exists_ofText_iff (h : ¬Text.Blank s.toList) :
    (∃ u, ofText s = .ok u) ↔ ∀ part ∈ s.toList.splitOn '|', Accepted part := by
  simp only [accepted_iff, ← exists_allOrFirstError_map_iff]
  rw [ofText_of_not_blank h]
  constructor
  · rintro ⟨u, hu⟩
    obtain ⟨tss, htss, _⟩ := ok_of_map_eq_ok hu
    exact ⟨tss, htss⟩
  · rintro ⟨tss, htss⟩
    exact ⟨ofList tss.flatten, by rw [htss]; rfl⟩

theorem ofText_eq_ok_iff (h : ¬Text.Blank s.toList) {u : UnionType} :
    ofText s = .ok u ↔
      ∃ tss, List.Forall₂ Denotes (s.toList.splitOn '|') tss ∧
        u.types = tss.flatten.eraseDupsBy Ty.same := by
  have hdenotes : ∀ tss, allOrFirstError ((s.toList.splitOn '|').map readAlternative) = .ok tss ↔
      List.Forall₂ Denotes (s.toList.splitOn '|') tss := by
    intro tss
    simp only [allOrFirstError_map_eq_ok_iff, readAlternative_eq_ok_iff]
  rw [ofText_of_not_blank h]
  constructor
  · intro hu
    obtain ⟨tss, htss, rfl⟩ := ok_of_map_eq_ok hu
    exact ⟨tss, (hdenotes tss).mp htss, types_ofList _⟩
  · rintro ⟨tss, htss, hu⟩
    have hunion : ofList tss.flatten = u := ext_types ((types_ofList _).trans hu.symm)
    rw [(hdenotes tss).mpr htss, ← hunion]
    rfl

theorem ofText_eq_error_iff (h : ¬Text.Blank s.toList) {e : TypeError} :
    ofText s = .error e ↔
      ∃ before part after mark core,
        s.toList.splitOn '|' = before ++ part :: after ∧ (∀ p ∈ before, Accepted p) ∧
        Alternative part mark core ∧ ¬Ty.WellFormed core ∧ e = ⟨String.ofList core⟩ := by
  rw [ofText_of_not_blank h, map_eq_error_iff, allOrFirstError_map_eq_error_iff]
  simp only [← accepted_iff, readAlternative_eq_error_iff, exists_and_left]

/-- A text is accepted if it is blank or every alternative between its `|`s has a type for its core.
A blank text is the empty union; any other is the union of the types that its alternatives stand
for, each where it first occurs. A text that is not accepted fails with the core of the first
alternative whose core is no type. -/
theorem ofText_grammar (s : String) :
    ((∃ u, ofText s = .ok u) ↔
      Text.Blank s.toList ∨ ∀ part ∈ s.toList.splitOn '|', Accepted part) ∧
    (∀ u, ofText s = .ok u ↔
      Text.Blank s.toList ∧ u = empty ∨
      ¬Text.Blank s.toList ∧ ∃ tss, List.Forall₂ Denotes (s.toList.splitOn '|') tss ∧
        u.types = tss.flatten.eraseDupsBy Ty.same) ∧
    ∀ e, ofText s = .error e ↔
      ¬Text.Blank s.toList ∧ ∃ before part after mark core,
        s.toList.splitOn '|' = before ++ part :: after ∧ (∀ p ∈ before, Accepted p) ∧
        Alternative part mark core ∧ ¬Ty.WellFormed core ∧ e = ⟨String.ofList core⟩ := by
  by_cases hblank : Text.Blank s.toList
  · have hread := ofText_of_blank hblank
    refine ⟨iff_of_true ⟨_, hread⟩ (.inl hblank), fun u => ?_, fun e => ?_⟩
    · rw [hread]
      simp [hblank, eq_comm]
    · rw [hread]
      exact iff_of_false nofun fun h => h.1 hblank
  · refine ⟨?_, fun u => ?_, fun e => ?_⟩
    · rw [exists_ofText_iff hblank, or_iff_right hblank]
    · rw [ofText_eq_ok_iff hblank, or_iff_right fun h => hblank h.1, and_iff_right hblank]
    · rw [ofText_eq_error_iff hblank, and_iff_right hblank]

namespace Spellings

/-- `Post` and `POST` are one class. -/
def union : UnionType :=
  ofList [.instanceOf (Name.ofText "Post"), .native .null, .native .int]

/-- The types of `Post | ?POST|INT`, alternative by alternative. -/
def alternatives : List (List Ty) :=
  [[.instanceOf (Name.ofText "Post")], [.instanceOf (Name.ofText "POST"), .native .null],
    [.native .int]]

theorem denotes_alternatives :
    List.Forall₂ Denotes ("Post | ?POST|INT".toList.splitOn '|') alternatives := by
  have hclass : ∀ {cs : List Char}, cs ≠ [] →
      Ty.afterClosureOpening? (Text.dropLeading '\\' cs) = none →
      Text.fold (String.ofList cs) = "post" →
      Ty.Written cs (.instanceOf (Name.ofText (String.ofList cs))) := by
    intro cs hne hopens hword
    refine .instanceOf hne (Ty.afterClosureOpening?_eq_none_iff.mp hopens) (.inr fun t => ?_)
    rw [hword]
    cases t <;> decide
  have hfirst : Denotes "Post ".toList [.instanceOf (Name.ofText "Post")] :=
    .plain (.plain (Text.trim_eq_iff.mp rfl) (by decide)) (hclass (by decide) rfl rfl)
  have hsecond : Denotes " ?POST".toList [.instanceOf (Name.ofText "POST"), .native .null] :=
    .marked (.marked (Text.trim_eq_iff.mp rfl) (Text.trim_eq_iff.mp rfl))
      (hclass (by decide) rfl rfl)
  have hthird : Denotes "INT".toList [.native .int] :=
    .plain (.plain (Text.trim_eq_iff.mp rfl) (by decide)) (.native (by decide) (by decide))
  exact .cons hfirst (.cons hsecond (.cons hthird .nil))

end Spellings

open Spellings in
/-- Of `?POST` only the `null` is new. A closure without a name between its brackets is no type, and
of two such texts the first is told. -/
theorem ofText_grammar_spellings :
    ¬Text.Blank "Post | ?POST|INT".toList ∧
    List.Forall₂ Denotes ("Post | ?POST|INT".toList.splitOn '|') alternatives ∧
    ofText "Post | ?POST|INT" = .ok union ∧
    union.types = [.instanceOf (Name.ofText "Post"), .native .null, .native .int] ∧
    ofText "?int| ? closure( )|" = .error ⟨"closure( )"⟩ := by
  have hblank : ¬Text.Blank "Post | ?POST|INT".toList := by decide
  have htypes : union.types = alternatives.flatten.eraseDupsBy Ty.same := by decide +kernel
  have hread : ofText "Post | ?POST|INT" = .ok union :=
    ((ofText_grammar _).2.1 union).mpr (.inr ⟨hblank, alternatives, denotes_alternatives, htypes⟩)
  have hfails : ofText "?int| ? closure( )|" = .error ⟨"closure( )"⟩ := by
    refine ((ofText_grammar _).2.2 _).mpr ⟨by decide, ["?int".toList], " ? closure( )".toList,
      ["".toList], true, "closure( )".toList, by decide +kernel, ?_, ?_, ?_, rfl⟩
    · refine List.forall_mem_singleton.mpr ⟨true, "int".toList, ?_, ?_⟩
      · exact .marked (Text.trim_eq_iff.mp rfl) (Text.trim_eq_iff.mp rfl)
      · exact Ty.wellFormed_iff.mpr ⟨.native .int, .native (by decide) (by decide)⟩
    · exact .marked (Text.trim_eq_iff.mp rfl) (Text.trim_eq_iff.mp rfl)
    · intro hwell
      have hopens : Ty.Opens "closure( )".toList " )".toList :=
        Ty.afterClosureOpening?_eq_some_iff.mp rfl
      obtain ⟨body, hbody, hnotBlank⟩ := hwell.closed _ hopens
      obtain rfl : [' '] = body := List.append_cancel_right hbody
      exact hnotBlank (by decide)
  exact ⟨hblank, denotes_alternatives, hread, rfl, hfails⟩

end UnionType

end GotoDefinition
