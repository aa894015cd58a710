import GotoDefinition.Proofs.RoundTrip.Contexts
import GotoDefinition.Proofs.Spelling.Names

/-!
# GotoDefinition.Proofs.Naming.Canonical

Canonical names and their parts.

A text loses the white space around it first and the `\`s in front of it afterwards. White space
behind these `\`s stays, but none is left at the end, and one `\` is put in front; so nothing is
left for a second time. The last `\` of a name parts it into a namespace and a short name. Names
that disregard case are equal when what is left of their texts agrees up to case, and so are their
keys.

* `Text.lastSegment_append`, `Text.beforeLast?_append` — both sides of the last separator.
* `Name.text_eq_parts` — a name from its namespace and its short name.
* `Name.key_ofText_eq_iff` — which texts have the same key.
* `Name.canonical_names` — all of it for any texts.
-/

namespace GotoDefinition

namespace Text

/-! ## The last separator -/

variable {sep : Char} {cs before after : List Char}

theorem all_ne_reverse (h : sep ∉ cs) : ∀ c ∈ cs.reverse, (c != sep) = true := by
  intro c hc
  rw [bne_iff_ne]
  rintro rfl
  exact h (List.mem_reverse.mp hc)

theorem beforeLast?_of_not_mem (h : sep ∉ cs) : beforeLast? sep cs = none := by
  rw [beforeLast?, List.dropWhile_eq_nil_iff.mpr (all_ne_reverse h)]

theorem reverse_append_sep (sep : Char) (before after : List Char) :
    (before ++ sep :: after).reverse = after.reverse ++ sep :: before.reverse := by
  simp

theorem lastSegment_append (before : List Char) (h : sep ∉ after) :
    lastSegment sep (before ++ sep :: after) = after := by
  rw [lastSegment, reverse_append_sep, List.takeWhile_append_of_pos (all_ne_reverse h),
    List.takeWhile_cons_of_neg (by simp), List.append_nil, List.reverse_reverse]

theorem beforeLast?_append (h : sep ∉ after) :
    beforeLast? sep (before ++ sep :: after) = some before := by
  rw [beforeLast?, reverse_append_sep, List.dropWhile_append_of_pos (all_ne_reverse h),
    List.dropWhile_cons_of_neg (by simp)]
  exact congrArg some (List.reverse_reverse before)

/-- A text with a separator is cut at the last one. -/
theorem exists_last (h : sep ∈ cs) :
    ∃ before after, cs = before ++ sep :: after ∧ sep ∉ after := by
  obtain ⟨after, before, hcs, hafter⟩ := List.eq_append_cons_of_mem (List.mem_reverse.mpr h)
  refine ⟨before.reverse, after.reverse, ?_, fun hmem => hafter (List.mem_reverse.mp hmem)⟩
  rw [← List.reverse_reverse cs, hcs, reverse_append_sep]

end Text

namespace Name

variable {kind : NameKind}

/-! ## Parts of a name -/

/-- What a name has behind its first `\` does not start with another. -/
theorem exists_body (n : Name kind) :
    ∃ body, n.text.toList = '\\' :: body ∧ body.head? ≠ some '\\' ∧
      Text.dropLeading '\\' n.text.toList = body := by
  obtain ⟨body, hbody, hhead, _⟩ := n.canonical
  refine ⟨body, hbody, fun h => ?_, ?_⟩
  · have hno := hhead '\\' h
    cases hno
  · rw [hbody, Text.dropLeading_cons_self]
    exact Text.dropWhile_eq_self hhead

theorem not_blank_last (n : Name kind) :
    ∀ c, n.text.toList.getLast? = some c → Text.isBlank c = false := by
  obtain ⟨body, hbody, _, hlast⟩ := n.canonical
  intro c hc
  rw [hbody] at hc
  cases body with
  | nil =>
    cases hc
    decide
  | cons d ds =>
    rw [List.getLast?_cons_cons] at hc
    exact hlast c hc

/-- The namespace of a name with the `\` behind it, or nothing. -/
def qualifier (n : Name kind) : String :=
  match n.namespace? with
  | some ns => ns ++ "\\"
  | none => ""

/-- A name is global, or it has a namespace and a short name around its last `\`. -/
theorem parts (n : Name kind) :
    (n.namespace? = none ∧ n.text = "\\" ++ n.short ∧ '\\' ∉ n.short.toList) ∨
    ∃ ns, n.namespace? = some ns ∧ ns ≠ "" ∧ n.text = "\\" ++ (ns ++ "\\") ++ n.short ∧
      '\\' ∉ n.short.toList := by
  obtain ⟨body, hbody, hhead, hdrop⟩ := n.exists_body
  rw [namespace?, short, hdrop, hbody, String.toList_ofList]
  by_cases hmem : '\\' ∈ body
  · obtain ⟨before, after, rfl, hafter⟩ := Text.exists_last hmem
    have hshort : Text.lastSegment '\\' ('\\' :: (before ++ '\\' :: after)) = after :=
      Text.lastSegment_append ('\\' :: before) hafter
    have hne : before ≠ [] := by
      rintro rfl
      exact hhead rfl
    refine .inr ⟨String.ofList before, ?_, ?_, ?_, ?_⟩
    · rw [Text.beforeLast?_append hafter, Option.map_some]
    · rw [Ne, String.ofList_eq_empty_iff]
      exact hne
    · rw [← String.toList_inj, hbody, hshort]
      simp
    · rw [hshort]
      exact hafter
  · have hshort : Text.lastSegment '\\' ('\\' :: body) = body :=
      Text.lastSegment_append [] hmem
    refine .inl ⟨?_, ?_, ?_⟩
    · rw [Text.beforeLast?_of_not_mem hmem, Option.map_none]
    · rw [← String.toList_inj, hbody, hshort]
      simp
    · rw [hshort]
      exact hmem

theorem text_eq_parts (n : Name kind) : n.text = "\\" ++ n.qualifier ++ n.short := by
  rcases n.parts with ⟨hnone, htext, _⟩ | ⟨ns, hsome, _, htext, _⟩
  · rw [qualifier, hnone]
    exact htext
  · rw [qualifier, hsome]
    exact htext

theorem backslash_not_mem_short (n : Name kind) : '\\' ∉ n.short.toList := by
  rcases n.parts with ⟨_, _, h⟩ | ⟨_, _, _, _, h⟩ <;> exact h

theorem namespace?_ne_empty (n : Name kind) : n.namespace? ≠ some "" := by
  intro hempty
  rcases n.parts with ⟨hnone, _⟩ | ⟨ns, hsome, hne, _⟩
  · rw [hempty] at hnone
    cases hnone
  · rw [hempty] at hsome
    cases hsome
    exact hne rfl

/-! ## Equal names -/

/-- What is left of a text without the white space around it, and then without the `\`s in front. -/
def core (s : String) : String :=
  String.ofList (Text.dropLeading '\\' (Text.trim s.toList))

theorem text_ofText (s : String) : (ofText s : Name kind).text = "\\" ++ core s := by
  rw [← String.toList_inj, String.toList_append]
  simp [ofText, GotoDefinition.canonical, core]

theorem key_ofText_eq_iff (hkind : kind.foldsCase = true) (a b : String) :
    (ofText a : Name kind).key = (ofText b : Name kind).key ↔
      Text.alike (core a) (core b) = true := by
  rw [key, key, if_pos hkind, if_pos hkind, text_ofText, text_ofText, Text.fold_append,
    Text.fold_append, String.append_right_inj, Text.alike_iff]

/-! ## Names of any texts -/

/-- The name of any text, of whatever kind, starts with one `\`, ends without white space, and is
the name of its own text, also when this text is written into a document and read again. It consists
of a `\`, its namespace with a `\` behind it if it has one, and its short name, in which there is no
`\`; no namespace is empty. Names of classes and functions are the same just when their keys are
equal, and just when their texts without white space around and then without `\`s in front agree up
to the case of ASCII letters. -/
theorem canonical_names (a b : String) (kind : NameKind) :
    (∃ body, (ofText a : Name kind).text.toList = '\\' :: body ∧ body.head? ≠ some '\\') ∧
    (∀ c, (ofText a : Name kind).text.toList.getLast? = some c → Text.isBlank c = false) ∧
    (ofText (ofText a : Name kind).text : Name kind) = ofText a ∧
    Reader.document Reader.name (Json.str (ofText a : Name kind).text).compact =
      .ok (ofText a : Name kind) ∧
    ((ofText a : Name kind).text =
      "\\" ++ (ofText a : Name kind).qualifier ++ (ofText a : Name kind).short ∧
      '\\' ∉ (ofText a : Name kind).short.toList ∧ (ofText a : Name kind).namespace? ≠ some "") ∧
    (kind.foldsCase = true →
      ((ofText a : Name kind).same (ofText b) = true ↔
        (ofText a : Name kind).key = (ofText b : Name kind).key) ∧
      ((ofText a : Name kind).same (ofText b) = true ↔
        Text.alike (core a) (core b) = true)) := by
  refine ⟨?_, not_blank_last _, ofText_text _, ?_,
    ⟨text_eq_parts _, backslash_not_mem_short _, namespace?_ne_empty _⟩,
    fun hkind => ⟨same_iff, ?_⟩⟩
  · obtain ⟨body, hbody, hhead, _⟩ := exists_body (ofText a : Name kind)
    exact ⟨body, hbody, hhead⟩
  · rw [Reader.document_compact _ (.str _), Reader.name_text]
  · rw [same_iff, key_ofText_eq_iff hkind]

/-- A space behind the `\`s in front belongs to the namespace; the spaces around do not count. -/
theorem canonical_names_spaced :
    NameKind.classLike.foldsCase = true ∧
    (ofText "\u3000\\\\ App\\User \t" : ClassName).qualifier = " App\\" ∧
    (ofText "\u3000\\\\ App\\User \t" : ClassName).same (ofText "\\ app\\USER") = true ∧
    '\\' ∉ (ofText "\u3000\\\\ App\\User \t" : ClassName).short.toList := by
  obtain ⟨_, _, _, _, ⟨_, hshort, _⟩, hsame⟩ :=
    canonical_names "\u3000\\\\ App\\User \t" "\\ app\\USER" .classLike
  exact ⟨rfl, by decide +kernel, (hsame rfl).2.mpr (by decide +kernel), hshort⟩

end Name

end GotoDefinition
