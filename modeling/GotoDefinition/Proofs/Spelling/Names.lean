import GotoDefinition.Proofs.Receiver

/-!
# GotoDefinition.Proofs.Spelling.Names

Names that differ in the case of ASCII letters denote the same classes and functions.

White space and `\` are no letters, so trimming a name, cutting it at `\` and putting a namespace in
front of it commute with writing it small. An alias is the exception: it is first looked up as it is
written. Where no two aliases of a file differ in case alone, the case does not matter there either.

* `Name.key_ofText_congr` — the same key.
* `Imports.find?_congr` — the same import.
* `Context.resolveClass_congr`, `Context.candidates_congr` — the same class, the same candidates.
* `CodeBase.namedType_congr`, `CodeBase.namedFunction_congr` — the same type and function.
-/

namespace GotoDefinition

/-! ## Letters -/

namespace Text

/-- Writing a character small changes the 26 letters `A` to `Z` alone. -/
theorem toLower_cases (c : Char) :
    c.toLower = c ∨ 65 ≤ c.toNat ∧ c.toNat ≤ 90 ∧ c.toLower.toNat = c.toNat + 32 := by
  unfold Char.toLower
  split
  · rename_i h
    have hlow : 65 ≤ c.val.toNat := UInt32.le_iff_toNat_le.mp h.1
    have hhigh : c.val.toNat ≤ 90 := UInt32.le_iff_toNat_le.mp h.2
    refine .inr ⟨hlow, hhigh, ?_⟩
    have hsum : (c.val + 32).toNat = (c.val.toNat + 32) % 2 ^ 32 := UInt32.toNat_add c.val 32
    exact hsum.trans (Nat.mod_eq_of_lt (by omega))
  · exact .inl rfl

theorem isBlank_toLower (c : Char) : isBlank c.toLower = isBlank c := by
  have hletter : ∀ d : Char, 65 ≤ d.toNat → d.toNat ≤ 122 → isBlank d = false := by
    intro d hlow hhigh
    simp only [isBlank, Bool.or_eq_false_iff, Bool.and_eq_false_iff, decide_eq_false_iff_not,
      beq_eq_false_iff_ne]
    omega
  rcases toLower_cases c with h | ⟨hlow, hhigh, hlower⟩
  · rw [h]
  · rw [hletter c hlow (by omega), hletter c.toLower (by omega) (by omega)]

theorem toLower_eq_backslash (c : Char) : c.toLower = '\\' ↔ c = '\\' := by
  rcases toLower_cases c with h | ⟨hlow, hhigh, hlower⟩
  · rw [h]
  · have hcode : ('\\' : Char).toNat = 92 := rfl
    constructor
    · intro h
      rw [h] at hlower
      omega
    · rintro rfl
      omega

theorem beq_backslash_toLower (c : Char) : (c.toLower == '\\') = (c == '\\') := by
  rw [Bool.eq_iff_iff, beq_iff_eq, beq_iff_eq]
  exact toLower_eq_backslash c

theorem alike_iff_map {a b : String} :
    alike a b = true ↔ a.toList.map Char.toLower = b.toList.map Char.toLower := by
  rw [alike_iff, fold, fold, String.ofList_inj]

theorem alike_ofList_iff {cs ds : List Char} :
    alike (String.ofList cs) (String.ofList ds) = true ↔
      cs.map Char.toLower = ds.map Char.toLower := by
  rw [alike_iff_map, String.toList_ofList, String.toList_ofList]

theorem fold_append (a b : String) : fold (a ++ b) = fold a ++ fold b := by
  simp only [fold, String.toList_append, List.map_append, String.ofList_append]

theorem alike_append {a b : String} (s : String) (h : alike a b = true) :
    alike (s ++ a) (s ++ b) = true := by
  rw [alike_iff] at h ⊢
  rw [fold_append, fold_append, h]

/-! ## Texts written small -/

theorem trim_lower (cs : List Char) : trim (cs.map Char.toLower) = (trim cs).map Char.toLower := by
  have hblank : isBlank ∘ Char.toLower = isBlank := funext isBlank_toLower
  simp only [trim, trimLeft, trimRight, List.dropWhile_map, hblank, ← List.map_reverse]

theorem dropLeading_lower (cs : List Char) :
    dropLeading '\\' (cs.map Char.toLower) = (dropLeading '\\' cs).map Char.toLower := by
  have hbackslash : (· == '\\') ∘ Char.toLower = (· == '\\') := funext beq_backslash_toLower
  simp only [dropLeading, List.dropWhile_map, hbackslash]

theorem contains_backslash_lower (cs : List Char) :
    (cs.map Char.toLower).contains '\\' = cs.contains '\\' := by
  rw [Bool.eq_iff_iff, List.contains_iff_mem, List.contains_iff_mem, List.mem_map]
  constructor
  · rintro ⟨c, hc, hlower⟩
    rw [toLower_eq_backslash] at hlower
    rwa [← hlower]
  · exact fun h => ⟨'\\', h, rfl⟩

theorem contains_backslash_congr {a b : String} (h : alike a b = true) :
    a.toList.contains '\\' = b.toList.contains '\\' := by
  rw [← contains_backslash_lower, alike_iff_map.mp h, contains_backslash_lower]

/-- The text before the first `\`, and the text from there on. -/
theorem firstSegment_congr {a b : String} (h : alike a b = true) :
    alike (String.ofList (a.toList.takeWhile (· != '\\')))
        (String.ofList (b.toList.takeWhile (· != '\\'))) = true ∧
      alike (String.ofList (a.toList.dropWhile (· != '\\')))
        (String.ofList (b.toList.dropWhile (· != '\\'))) = true := by
  have hbackslash : (· != '\\') ∘ Char.toLower = (· != '\\') := by
    funext c
    exact congrArg not (beq_backslash_toLower c)
  rw [alike_iff_map] at h
  constructor
  · rw [alike_ofList_iff, ← hbackslash, ← List.takeWhile_map, ← List.takeWhile_map, h]
  · rw [alike_ofList_iff, ← hbackslash, ← List.dropWhile_map, ← List.dropWhile_map, h]

/-- Of two texts that are alike both start with a `\`, or neither. -/
theorem leading_congr {a b : String} (h : alike a b = true) :
    (∃ cs ds, a.toList = '\\' :: cs ∧ b.toList = '\\' :: ds ∧
      alike (String.ofList cs) (String.ofList ds) = true) ∨
    (∀ cs, a.toList ≠ '\\' :: cs) ∧ ∀ ds, b.toList ≠ '\\' :: ds := by
  rw [alike_iff_map] at h
  cases ha : a.toList with
  | nil =>
    rw [ha, List.map_nil] at h
    rw [List.map_eq_nil_iff.mp h.symm]
    exact .inr ⟨nofun, nofun⟩
  | cons c cs =>
    rw [ha, List.map_cons] at h
    obtain ⟨d, ds, hb, hhead, htail⟩ := List.map_eq_cons_iff.mp h.symm
    by_cases hc : c = '\\'
    · subst hc
      have hd : d = '\\' := (toLower_eq_backslash d).mp hhead
      subst hd
      exact .inl ⟨cs, ds, rfl, hb, alike_ofList_iff.mpr htail.symm⟩
    · refine .inr ⟨?_, ?_⟩
      · intro cs' hcs
        exact hc (List.head_eq_of_cons_eq hcs)
      · intro ds' hds
        rw [hb] at hds
        have hd : d = '\\' := List.head_eq_of_cons_eq hds
        rw [hd] at hhead
        exact hc ((toLower_eq_backslash c).mp hhead.symm)

end Text

/-! ## Canonical names -/

theorem canonical_lower (cs : List Char) :
    canonical (cs.map Char.toLower) = (canonical cs).map Char.toLower := by
  rw [canonical, canonical, Text.trim_lower, Text.dropLeading_lower, List.map_cons]
  rfl

theorem Name.key_ofText_congr {kind : NameKind} (hkind : kind.foldsCase = true) {a b : String}
    (h : Text.alike a b = true) :
    (Name.ofText a : Name kind).key = (Name.ofText b : Name kind).key := by
  rw [key, key, if_pos hkind, if_pos hkind, ← Text.alike_iff, ofText, ofText,
    Text.alike_ofList_iff, ← canonical_lower, ← canonical_lower, Text.alike_iff_map.mp h]

theorem NativeType.ofWord?_congr {a b : String} (h : Text.alike a b = true) :
    NativeType.ofWord? a = NativeType.ofWord? b := by
  rw [NativeType.ofWord?, NativeType.ofWord?, Text.alike_iff.mp h]

/-! ## Imports -/

namespace Imports

/-- No two aliases are equal up to case. -/
def Apart (is : Imports) : Prop :=
  is.entries.Pairwise fun e f => Text.alike e.1 f.1 = false

theorem find?_alike_of_find? {es : List (String × String)} {key : String} {e : String × String}
    (hapart : es.Pairwise fun e f => Text.alike e.1 f.1 = false)
    (h : es.find? (·.1 == key) = some e) : es.find? (Text.alike ·.1 key) = some e := by
  induction es with
  | nil => cases h
  | cons f es ih =>
    obtain ⟨hhead, htail⟩ := List.pairwise_cons.mp hapart
    rw [List.find?_cons] at h
    split at h
    · rename_i hkey
      cases h
      rw [List.find?_cons_of_pos]
      rw [beq_iff_eq.mp hkey]
      exact Text.alike_refl key
    · -- The alias itself comes later, so nothing like it stands here.
      have hkey : e.1 = key := by simpa using List.find?_some h
      have hfar := hhead e (List.mem_of_find?_eq_some h)
      rw [List.find?_cons_of_neg]
      · exact ih htail h
      · rw [← hkey, hfar]
        exact Bool.false_ne_true

/-- Where aliases are apart, the exact spelling of an alias decides nothing. -/
theorem find?_eq_alike {is : Imports} (hapart : is.Apart) (key : String) :
    is.find? key = (is.entries.find? (Text.alike ·.1 key)).map (·.2) := by
  rw [find?]
  cases h : is.entries.find? (·.1 == key) with
  | none => rfl
  | some e => rw [find?_alike_of_find? hapart h, Option.map_some]

theorem find?_congr {is : Imports} (hapart : is.Apart) {a b : String}
    (h : Text.alike a b = true) : is.find? a = is.find? b := by
  simp only [find?_eq_alike hapart, Text.alike_congr h]

end Imports

/-! ## Names in a context -/

namespace Context

variable {ctx : Context} {a b : String}

theorem qualify_congr (ctx : Context) (h : Text.alike a b = true) :
    Text.alike (ctx.qualify a) (ctx.qualify b) = true := by
  rw [qualify, qualify]
  cases ctx.currentNamespace with
  | none => exact h
  | some ns =>
    dsimp only
    split
    · exact h
    · exact Text.alike_append _ h

/-- A namespace in front makes a name longer, whatever the name is. -/
theorem qualify_beq_self (ctx : Context) (name : String) :
    (ctx.qualify name == name) = (ctx.currentNamespace.getD "").isEmpty := by
  rw [qualify]
  cases ctx.currentNamespace with
  | none => simp
  | some ns =>
    dsimp only [Option.getD_some]
    split
    · rename_i hempty
      rw [hempty, beq_self_eq_true]
    · rename_i hempty
      rw [Bool.not_eq_true] at hempty
      rw [hempty, beq_eq_false_iff_ne]
      intro h
      have hlength := congrArg String.length h
      simp only [String.length_append] at hlength
      have hone : "\\".length = 1 := rfl
      omega

theorem expand_congr (hapart : ctx.imports.Apart) (h : Text.alike a b = true) :
    Text.alike (ctx.expand a) (ctx.expand b) = true := by
  obtain ⟨hfirst, hrest⟩ := Text.firstSegment_congr h
  rw [expand, expand]
  simp only [Imports.find?_congr hapart hfirst]
  split
  · exact Text.alike_append _ hrest
  · exact qualify_congr ctx h

theorem resolveClass_rooted {name : String} {cs : List Char} (h : name.toList = '\\' :: cs) :
    ctx.resolveClass name = Name.ofText (String.ofList cs) := by
  rw [resolveClass]
  split
  · rename_i hcs
    rw [h] at hcs
    cases hcs
    rfl
  · rename_i hne
    exact absurd h (hne cs)

theorem resolveClass_relative {name : String} (h : ∀ cs, name.toList ≠ '\\' :: cs) :
    ctx.resolveClass name = Name.ofText (ctx.expand name) := by
  rw [resolveClass]
  split
  · rename_i hcs
    exact absurd hcs (h _)
  · rfl

theorem resolveClass_congr (hapart : ctx.imports.Apart) (h : Text.alike a b = true) :
    (ctx.resolveClass a).key = (ctx.resolveClass b).key := by
  rcases Text.leading_congr h with ⟨cs, ds, ha, hb, hrest⟩ | ⟨ha, hb⟩
  · rw [resolveClass_rooted ha, resolveClass_rooted hb]
    exact Name.key_ofText_congr rfl hrest
  · rw [resolveClass_relative ha, resolveClass_relative hb]
    exact Name.key_ofText_congr rfl (expand_congr hapart h)

theorem candidates_rooted {name : String} {cs : List Char} (h : name.toList = '\\' :: cs) :
    ctx.candidates name = [String.ofList cs] := by
  rw [candidates]
  split
  · rename_i hcs
    rw [h] at hcs
    cases hcs
    rfl
  · rename_i hne
    exact absurd h (hne cs)

theorem candidates_relative {name : String} (h : ∀ cs, name.toList ≠ '\\' :: cs) :
    ctx.candidates name =
      if name.toList.contains '\\' then [ctx.expand name]
      else if (ctx.currentNamespace.getD "").isEmpty then [name]
      else [ctx.qualify name, name] := by
  rw [candidates, ← qualify_beq_self ctx name]
  split
  · rename_i hcs
    exact absurd hcs (h _)
  · rfl

theorem candidates_congr (hapart : ctx.imports.Apart) (h : Text.alike a b = true) :
    List.Forall₂ SameLetters (ctx.candidates a) (ctx.candidates b) := by
  rcases Text.leading_congr h with ⟨cs, ds, ha, hb, hrest⟩ | ⟨ha, hb⟩
  · rw [candidates_rooted ha, candidates_rooted hb]
    exact .cons hrest .nil
  · rw [candidates_relative ha, candidates_relative hb, Text.contains_backslash_congr h]
    split
    · exact .cons (expand_congr hapart h) .nil
    · split
      · exact .cons h .nil
      · exact .cons (qualify_congr ctx h) (.cons h .nil)

theorem findVariable?_congr (ctx : Context) (h : SameBare a b) :
    ctx.findVariable? a = ctx.findVariable? b := by
  unfold SameBare at h
  simp only [findVariable?, Scope.find?, h]

end Context

/-! ## Names in a code base -/

namespace CodeBase

variable {cb : CodeBase} {ctx : Context} {a b : String}

theorem namedType_congr (hapart : ctx.imports.Apart) (h : Text.alike a b = true) :
    SameOutcome (fun s t => s.same t = true) (cb.namedType ctx a) (cb.namedType ctx b) := by
  simp only [namedType, Text.alike_iff.mp h, Text.contains_backslash_congr h,
    NativeType.ofWord?_congr h]
  split
  · cases ctx.enclosingClass with
    | none => exact .error _ _
    | some c => exact .ok (Ty.same_refl _)
  · split
    · exact .refl Ty.same_refl _
    · split
      · exact .ok (Ty.same_refl _)
      · exact .ok (Name.same_iff.mpr (Context.resolveClass_congr hapart h))

theorem namedFunction_congr (hapart : ctx.imports.Apart) (h : Text.alike a b = true) :
    SameOutcome Eq (cb.namedFunction ctx a) (cb.namedFunction ctx b) := by
  have hfound : (ctx.candidates a).findSome? (fun text => cb.findFunction? (Name.ofText text)) =
      (ctx.candidates b).findSome? fun text => cb.findFunction? (Name.ofText text) :=
    findSome?_forall₂ (fun _ _ hsame => findFunction?_congr (Name.key_ofText_congr rfl hsame))
      (Context.candidates_congr hapart h)
  rw [namedFunction, namedFunction, hfound]
  split
  · exact .ok rfl
  · exact .error _ _

end CodeBase

end GotoDefinition
