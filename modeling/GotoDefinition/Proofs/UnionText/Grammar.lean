import GotoDefinition.Proofs.Naming.ReservedWords

/-!
# GotoDefinition.Proofs.UnionText.Grammar

Which texts are types, and which types they are.

The grammar is a relation beside the reader. `Ty.Opens` says what stands behind a `Closure(`,
`Ty.WellFormed` which texts are types and `Ty.Written` which type a text is. Reading a text without
white space around it succeeds on the well-formed texts alone, with the type that is written, and
fails with the text itself.

* `Text.trim_eq_iff` — what is left of a text without the white space around it.
* `Ty.afterClosureOpening?_eq_some_iff`, `Ty.beforeClosing?_eq_some_iff` — both ends of a closure.
* `Ty.ofTrimmed_eq_ok_iff`, `Ty.ofTrimmed_eq_error_iff` — the reader against the grammar.
-/

namespace GotoDefinition

namespace Text

/-! ## White space around a text -/

/-- White space alone. -/
def Blank (cs : List Char) : Prop :=
  ∀ c ∈ cs, isBlank c = true

theorem isAllBlank_iff {cs : List Char} : isAllBlank cs = true ↔ Blank cs :=
  List.all_eq_true

instance (cs : List Char) : Decidable (Blank cs) :=
  decidable_of_iff _ isAllBlank_iff

/-- A text, with nothing but white space added around a core that has none at its ends. -/
structure Padded (core cs : List Char) : Prop where
  head : ∀ c, core.head? = some c → isBlank c = false
  last : ∀ c, core.getLast? = some c → isBlank c = false
  around : ∃ before after, Blank before ∧ Blank after ∧ cs = before ++ core ++ after

theorem trimLeft_append {before : List Char} (h : Blank before) (cs : List Char) :
    trimLeft (before ++ cs) = trimLeft cs :=
  List.dropWhile_append_of_pos h

theorem trimRight_append {after : List Char} (h : Blank after) (cs : List Char) :
    trimRight (cs ++ after) = trimRight cs := by
  rw [trimRight, trimRight, List.reverse_append, List.dropWhile_append_of_pos]
  intro c hc
  exact h c (List.mem_reverse.mp hc)

theorem exists_trimLeft (cs : List Char) : ∃ before, Blank before ∧ cs = before ++ trimLeft cs :=
  ⟨cs.takeWhile isBlank, List.all_eq_true.mp List.all_takeWhile,
    List.takeWhile_append_dropWhile.symm⟩

theorem exists_trimRight (cs : List Char) : ∃ after, Blank after ∧ cs = trimRight cs ++ after := by
  obtain ⟨before, hbefore, hcs⟩ := exists_trimLeft cs.reverse
  refine ⟨before.reverse, fun c hc => hbefore c (List.mem_reverse.mp hc), ?_⟩
  rw [trimRight, ← List.reverse_append, ← trimLeft, ← hcs, List.reverse_reverse]

theorem padded_trim (cs : List Char) : Padded (trim cs) cs where
  head := head?_trim cs
  last := getLast?_trim cs
  around := by
    obtain ⟨before, hbefore, hleft⟩ := exists_trimLeft cs
    obtain ⟨after, hafter, hright⟩ := exists_trimRight (trimLeft cs)
    refine ⟨before, after, hbefore, hafter, ?_⟩
    rw [List.append_assoc, trim, ← hright, ← hleft]

theorem Padded.trim_eq {core cs : List Char} (h : Padded core cs) : trim cs = core := by
  obtain ⟨before, after, hbefore, hafter, rfl⟩ := h.around
  rw [trim, List.append_assoc, trimLeft_append hbefore]
  cases core with
  | nil => rw [List.nil_append, ← List.append_nil after, trimLeft_append hafter]; rfl
  | cons c core =>
    have hkept : trimLeft (c :: core ++ after) = c :: core ++ after := dropWhile_eq_self h.head
    have hcore : trimLeft (c :: core) = c :: core := dropWhile_eq_self h.head
    rw [hkept, trimRight_append hafter]
    exact (congrArg trimRight hcore).symm.trans (trim_eq_self h.head h.last)

theorem trim_eq_iff {core cs : List Char} : trim cs = core ↔ Padded core cs := by
  constructor
  · rintro rfl
    exact padded_trim cs
  · exact Padded.trim_eq

/-! ## Segments -/

/-- Cutting a text at a character is the library's splitting of a list. -/
theorem segments_eq_splitOn (sep : Char) (cs : List Char) : segments sep cs = cs.splitOn sep := by
  induction cs with
  | nil => rw [segments, List.splitOn_nil]
  | cons c cs ih =>
    rw [List.splitOn, List.splitOnP_cons_eq_if_modifyHead, ← List.splitOn, ← ih, segments]
    by_cases hc : c = sep
    · rw [if_pos hc, if_pos (beq_iff_eq.mpr hc)]
    · rw [if_neg hc, if_neg (mt beq_iff_eq.mp hc)]
      cases hrest : segments sep cs with
      | nil => exact absurd hrest (segments_ne_nil sep cs)
      | cons s ss => rfl

/-- What stands behind the copies of a character at the start of a text. -/
theorem exists_dropLeading (c : Char) (cs : List Char) :
    ∃ front, (∀ d ∈ front, d = c) ∧ cs = front ++ dropLeading c cs := by
  refine ⟨cs.takeWhile (· == c), fun d hd => ?_, List.takeWhile_append_dropWhile.symm⟩
  exact beq_iff_eq.mp (List.all_eq_true.mp List.all_takeWhile d hd)

theorem dropLeading_front {c : Char} {front : List Char} (h : ∀ d ∈ front, d = c)
    {cs : List Char} (hcs : ∀ d, cs.head? = some d → d ≠ c) : dropLeading c (front ++ cs) = cs := by
  rw [dropLeading, List.dropWhile_append_of_pos fun d hd => beq_iff_eq.mpr (h d hd)]
  exact dropWhile_eq_self fun d hd => beq_false_of_ne (hcs d hd)

end Text

namespace NativeType

theorem ofWord?_eq_some_iff {s : String} {t : NativeType} :
    ofWord? s = some t ↔ Text.fold s ∈ t.words := by
  refine ⟨fold_mem_words, fun h => ?_⟩
  rw [ofWord?]
  cases t <;> simp only [words, word, List.mem_cons, List.not_mem_nil, or_false] at h
  case int | float | bool => rcases h with h | h <;> simp only [h]
  all_goals simp only [h]

/-- No keyword has a `(`. -/
theorem paren_not_mem_of_mem_words {t : NativeType} {w : String} (h : w ∈ t.words) :
    '(' ∉ w.toList := by
  have hwords : ∀ w ∈ t.words, '(' ∉ w.toList := by cases t <;> decide
  exact hwords w h

end NativeType

namespace Ty

/-! ## The grammar of types -/

/-- The second text is what stands in the first behind a `Closure(`, which may be written in any
case and behind any number of `\`. -/
inductive Opens : List Char → List Char → Prop where
  | mk {slashes word rest : List Char} (hslashes : ∀ c ∈ slashes, c = '\\')
      (hword : Text.alike (String.ofList word) "Closure(" = true) :
      Opens (slashes ++ (word ++ rest)) rest

/-- A text that is a type: some text, which closes around another if it opens as a closure. -/
structure WellFormed (cs : List Char) : Prop where
  nonempty : cs ≠ []
  closed : ∀ rest, Opens cs rest → ∃ body, rest = body ++ [')'] ∧ ¬Text.Blank body

/-- The type that a text is. -/
inductive Written : List Char → Ty → Prop where
  /-- `Closure(` and `)` around the name of a function. -/
  | closure {cs body : List Char} (hopens : Opens cs (body ++ [')'])) (hbody : ¬Text.Blank body) :
      Written cs (.closure (Name.ofText (String.ofList body)))
  /-- A keyword in any case, without a `\`. -/
  | native {cs : List Char} {t : NativeType} (hplain : '\\' ∉ cs)
      (hword : Text.fold (String.ofList cs) ∈ t.words) : Written cs (.native t)
  /-- Any other text is the name of a class. -/
  | instanceOf {cs : List Char} (hne : cs ≠ []) (hopens : ∀ rest, ¬Opens cs rest)
      (hnative : '\\' ∈ cs ∨ ∀ t : NativeType, Text.fold (String.ofList cs) ∉ t.words) :
      Written cs (.instanceOf (Name.ofText (String.ofList cs)))

/-! ## The ends of a closure -/

theorem afterClosureOpening?_append {word : List Char}
    (h : Text.alike (String.ofList word) "Closure(" = true) (rest : List Char) :
    afterClosureOpening? (word ++ rest) = some rest := by
  have hlower : word.map Char.toLower = closureOpening := Text.alike_ofList_iff.mp h
  have hlength : word.length = 8 := by simpa [closureOpening] using congrArg List.length hlower
  rw [afterClosureOpening?, List.take_left' hlength, List.drop_left' hlength, if_pos hlower]

/-- A `Closure(` does not start with a `\`. -/
theorem head?_closureOpening {word : List Char}
    (h : Text.alike (String.ofList word) "Closure(" = true) (rest : List Char) (c : Char)
    (hc : (word ++ rest).head? = some c) : c ≠ '\\' := by
  have hlower : word.map Char.toLower = closureOpening := Text.alike_ofList_iff.mp h
  cases word with
  | nil => cases hlower
  | cons d word =>
    cases hc
    rintro rfl
    cases hlower

theorem afterClosureOpening?_eq_some_iff {cs rest : List Char} :
    afterClosureOpening? (Text.dropLeading '\\' cs) = some rest ↔ Opens cs rest := by
  constructor
  · intro h
    obtain ⟨slashes, hslashes, hcs⟩ := Text.exists_dropLeading '\\' cs
    generalize Text.dropLeading '\\' cs = unrooted at h hcs
    rw [afterClosureOpening?] at h
    split at h
    · rename_i hlower
      cases h
      have hopens : Opens (slashes ++ (unrooted.take 8 ++ unrooted.drop 8)) (unrooted.drop 8) :=
        .mk hslashes (Text.alike_ofList_iff.mpr hlower)
      rwa [List.take_append_drop, ← hcs] at hopens
    · cases h
  · rintro ⟨hslashes, hword⟩
    rw [Text.dropLeading_front hslashes (head?_closureOpening hword _),
      afterClosureOpening?_append hword]

theorem afterClosureOpening?_eq_none_iff {cs : List Char} :
    afterClosureOpening? (Text.dropLeading '\\' cs) = none ↔ ∀ rest, ¬Opens cs rest := by
  simp only [← afterClosureOpening?_eq_some_iff, Option.eq_none_iff_forall_ne_some, ne_eq]

theorem beforeClosing?_eq_some_iff {rest body : List Char} :
    beforeClosing? rest = some body ↔ rest = body ++ [')'] ∧ ¬Text.Blank body := by
  rw [beforeClosing?, ← Text.isAllBlank_iff]
  constructor
  · intro h
    split at h
    · rename_i hends
      cases h
      rw [Bool.and_eq_true, decide_eq_true_eq, Bool.not_eq_true'] at hends
      obtain ⟨hlast, hblank⟩ := hends
      obtain ⟨front, rfl⟩ := List.getLast?_eq_some_iff.mp hlast
      rw [List.dropLast_concat] at hblank ⊢
      exact ⟨rfl, by rw [hblank]; exact Bool.false_ne_true⟩
    · cases h
  · rintro ⟨rfl, hbody⟩
    simp [hbody]

/-! ## The reader against the grammar -/

/-- A keyword does not open as a closure. -/
theorem not_opens_of_words {cs : List Char} {t : NativeType} (hplain : '\\' ∉ cs)
    (hword : Text.fold (String.ofList cs) ∈ t.words) (rest : List Char) : ¬Opens cs rest := by
  rintro ⟨hslashes, hopening⟩
  rename_i slashes word
  refine NativeType.paren_not_mem_of_mem_words hword ?_
  have hlower : word.map Char.toLower = closureOpening := Text.alike_ofList_iff.mp hopening
  rw [Text.fold, String.toList_ofList, String.toList_ofList, List.map_append, List.map_append,
    hlower]
  simp [closureOpening]

theorem keyword_eq_some_iff {cs : List Char} {t : NativeType} :
    (if cs.contains '\\' then none else NativeType.ofWord? (String.ofList cs)) = some t ↔
      '\\' ∉ cs ∧ Text.fold (String.ofList cs) ∈ t.words := by
  rw [← NativeType.ofWord?_eq_some_iff, ← List.contains_iff_mem]
  cases cs.contains '\\' <;> simp

theorem Opens.ne_nil {cs rest : List Char} (h : Opens cs rest) : cs ≠ [] := by
  rintro rfl
  have hnone : afterClosureOpening? (Text.dropLeading '\\' []) = none := rfl
  exact afterClosureOpening?_eq_none_iff.mp hnone rest h

theorem ofTrimmed_of_opens {cs rest : List Char} (h : Opens cs rest) :
    ofTrimmed cs = (beforeClosing? rest).elim (.error ⟨String.ofList cs⟩) fun body =>
      .ok (.closure (Name.ofText (String.ofList body))) := by
  rw [ofTrimmed]
  · simp only [afterClosureOpening?_eq_some_iff.mpr h]
    cases beforeClosing? rest <;> rfl
  · exact h.ne_nil

theorem ofTrimmed_of_not_opens {cs : List Char} (hne : cs ≠ []) (h : ∀ rest, ¬Opens cs rest) :
    ofTrimmed cs =
      (if cs.contains '\\' then none else NativeType.ofWord? (String.ofList cs)).elim
        (.ok (.instanceOf (Name.ofText (String.ofList cs)))) fun t => .ok (.native t) := by
  rw [ofTrimmed]
  · simp only [afterClosureOpening?_eq_none_iff.mpr h]
    cases if cs.contains '\\' then none else NativeType.ofWord? (String.ofList cs) <;> rfl
  · exact hne

/-- What is written is read. -/
theorem Written.ofTrimmed_eq {cs : List Char} {t : Ty} (h : Written cs t) :
    ofTrimmed cs = .ok t := by
  cases h with
  | closure hopens hbody =>
    rw [ofTrimmed_of_opens hopens, beforeClosing?_eq_some_iff.mpr ⟨rfl, hbody⟩, Option.elim_some]
  | @native t hplain hword =>
    have hne : cs ≠ [] := by
      rintro rfl
      revert hword
      cases t <;> decide
    rw [ofTrimmed_of_not_opens hne (not_opens_of_words hplain hword),
      keyword_eq_some_iff.mpr ⟨hplain, hword⟩, Option.elim_some]
  | instanceOf hne hopens hnative =>
    have hnone : (if cs.contains '\\' then none else NativeType.ofWord? (String.ofList cs)) =
        none := by
      rw [Option.eq_none_iff_forall_ne_some]
      intro t ht
      obtain ⟨hplain, hword⟩ := keyword_eq_some_iff.mp ht
      rcases hnative with hbackslash | hnative
      · exact hplain hbackslash
      · exact hnative t hword
    rw [ofTrimmed_of_not_opens hne hopens, hnone, Option.elim_none]

/-- A text is well-formed and read as what is written, or neither well-formed nor read. -/
theorem ofTrimmed_cases (cs : List Char) :
    (WellFormed cs ∧ ∃ t, Written cs t) ∨
      (¬WellFormed cs ∧ ofTrimmed cs = .error ⟨String.ofList cs⟩) := by
  by_cases hne : cs = []
  · subst hne
    exact .inr ⟨fun h => h.nonempty rfl, rfl⟩
  by_cases hopens : ∃ rest, Opens cs rest
  · obtain ⟨rest, hopens⟩ := hopens
    have honly : ∀ rest', Opens cs rest' → rest' = rest := by
      intro rest' hopens'
      rw [← afterClosureOpening?_eq_some_iff] at hopens hopens'
      rw [hopens] at hopens'
      exact (Option.some.inj hopens').symm
    cases hbody : beforeClosing? rest with
    | some body =>
      obtain ⟨rfl, hblank⟩ := beforeClosing?_eq_some_iff.mp hbody
      have hwritten := Written.closure hopens hblank
      exact .inl ⟨⟨hne, fun rest' hopens' => ⟨body, honly rest' hopens', hblank⟩⟩, _, hwritten⟩
    | none =>
      refine .inr ⟨fun h => ?_, ?_⟩
      · obtain ⟨body, hrest, hblank⟩ := h.closed rest hopens
        rw [beforeClosing?_eq_some_iff.mpr ⟨hrest, hblank⟩] at hbody
        cases hbody
      · rw [ofTrimmed_of_opens hopens, hbody, Option.elim_none]
  · rw [not_exists] at hopens
    refine .inl ⟨⟨hne, fun rest h => absurd h (hopens rest)⟩, ?_⟩
    by_cases hnative : ∃ t : NativeType, '\\' ∉ cs ∧ Text.fold (String.ofList cs) ∈ t.words
    · obtain ⟨t, hplain, hword⟩ := hnative
      exact ⟨_, .native hplain hword⟩
    · refine ⟨_, .instanceOf hne hopens ?_⟩
      by_cases hbackslash : '\\' ∈ cs
      · exact .inl hbackslash
      · exact .inr fun t hword => hnative ⟨t, hbackslash, hword⟩

theorem ofTrimmed_eq_ok_iff {cs : List Char} {t : Ty} : ofTrimmed cs = .ok t ↔ Written cs t := by
  refine ⟨fun h => ?_, Written.ofTrimmed_eq⟩
  rcases ofTrimmed_cases cs with ⟨-, s, hs⟩ | ⟨-, herror⟩
  · rw [hs.ofTrimmed_eq] at h
    cases h
    exact hs
  · rw [herror] at h
    cases h

theorem ofTrimmed_eq_error_iff {cs : List Char} {e : TypeError} :
    ofTrimmed cs = .error e ↔ ¬WellFormed cs ∧ e = ⟨String.ofList cs⟩ := by
  rcases ofTrimmed_cases cs with ⟨hwell, t, ht⟩ | ⟨hwell, herror⟩
  · rw [ht.ofTrimmed_eq]
    exact iff_of_false nofun fun h => h.1 hwell
  · rw [herror]
    constructor
    · intro h
      cases h
      exact ⟨hwell, rfl⟩
    · rintro ⟨-, rfl⟩
      rfl

theorem wellFormed_iff {cs : List Char} : WellFormed cs ↔ ∃ t, Written cs t := by
  rcases ofTrimmed_cases cs with ⟨hwell, hwritten⟩ | ⟨hwell, herror⟩
  · exact iff_of_true hwell hwritten
  · refine iff_of_false hwell ?_
    rintro ⟨t, ht⟩
    rw [ht.ofTrimmed_eq] at herror
    cases herror

end Ty

end GotoDefinition
