import GotoDefinition.Proofs.Naming.Aliases
import GotoDefinition.Proofs.Spelling.Names

/-!
# GotoDefinition.Proofs.Naming.Paths

Names as lists of segments.

A segment is a text without `\` and white space, and a path joins segments by `\`. The canonical
name of a path has its segments, behind the one `\` that it starts with. Where the namespace of a
file and the targets of its imports are paths, putting a namespace in front of a path and replacing
its first segment join lists of segments.

* `segments_name` — the segments of the name of a path.
* `Context.qualify_path`, `Context.expand_alias`, `Context.expand_unknown` — names in a file, on
  segments.
-/

namespace GotoDefinition

/-- A part of a name between two `\`. -/
structure Segment where
  chars : List Char
  nonempty : chars ≠ []
  solid : ∀ c ∈ chars, c ≠ '\\' ∧ Text.isBlank c = false

namespace Segment

def text (s : Segment) : String :=
  String.ofList s.chars

theorem toList_text (s : Segment) : s.text.toList = s.chars :=
  String.toList_ofList

theorem backslash_not_mem (s : Segment) : '\\' ∉ s.chars :=
  fun h => (s.solid _ h).1 rfl

/-- Only the characters of the text have to be looked at. -/
theorem solid_of_all {cs : List Char} (h : (cs.all fun c => c != '\\' && !Text.isBlank c) = true) :
    ∀ c ∈ cs, c ≠ '\\' ∧ Text.isBlank c = false := by
  intro c hc
  simpa using List.all_eq_true.mp h c hc

end Segment

abbrev NamePath := List Segment

/-- What stands between the `\`s behind the first one. -/
def Name.segments {kind : NameKind} (n : Name kind) : List (List Char) :=
  Text.segments '\\' (n.text.toList.drop 1)

namespace NamePath

def chars (p : NamePath) : List Char :=
  ['\\'].intercalate (p.map Segment.chars)

def text (p : NamePath) : String :=
  String.ofList (chars p)

/-- The class, function or constant that is declared under a path. -/
def name {kind : NameKind} (p : NamePath) : Name kind :=
  Name.ofText (text p)

theorem toList_text (p : NamePath) : (text p).toList = chars p :=
  String.toList_ofList

/-! ## Characters of a path -/

/-- Segments that follow others, each behind a `\`. -/
def tail (p : NamePath) : List Char :=
  p.flatMap fun s => '\\' :: s.chars

theorem chars_cons (s : Segment) (p : NamePath) : chars (s :: p) = s.chars ++ tail p := by
  induction p generalizing s with
  | nil => simp [chars, tail]
  | cons t p ih =>
    have hrest : ['\\'].intercalate (t.chars :: p.map Segment.chars) = t.chars ++ tail p := ih t
    rw [chars, List.map_cons, List.map_cons, List.intercalate_cons_cons, hrest]
    simp [tail]

theorem tail_eq_cons {p : NamePath} (hp : p ≠ []) : tail p = '\\' :: chars p := by
  cases p with
  | nil => exact absurd rfl hp
  | cons s p =>
    rw [chars_cons, ← List.cons_append]
    exact List.flatMap_cons

theorem chars_append {p : NamePath} (hp : p ≠ []) (q : NamePath) :
    chars (p ++ q) = chars p ++ tail q := by
  cases p with
  | nil => exact absurd rfl hp
  | cons s p =>
    have htail : tail (p ++ q) = tail p ++ tail q := List.flatMap_append
    rw [List.cons_append, chars_cons, chars_cons, htail, List.append_assoc]

theorem text_singleton (s : Segment) : text [s] = s.text := by
  rw [text, chars_cons, tail, List.flatMap_nil, List.append_nil, Segment.text]

theorem chars_ne_nil {p : NamePath} (hp : p ≠ []) : chars p ≠ [] := by
  cases p with
  | nil => exact absurd rfl hp
  | cons s p =>
    rw [chars_cons]
    exact List.append_ne_nil_of_left_ne_nil s.nonempty _

theorem text_eq_empty_iff {p : NamePath} : text p = "" ↔ p = [] := by
  constructor
  · intro h
    by_contra hp
    have hchars : chars p = [] := by rw [← toList_text, h, String.toList_empty]
    exact chars_ne_nil hp hchars
  · rintro rfl
    rfl

theorem solid_of_head? {p : NamePath} {c : Char} (h : (chars p).head? = some c) :
    c ≠ '\\' ∧ Text.isBlank c = false := by
  cases p with
  | nil => cases h
  | cons s p =>
    rw [chars_cons, List.head?_append_of_ne_nil _ s.nonempty] at h
    exact s.solid c (List.mem_of_head? h)

theorem solid_of_getLast? {p : NamePath} {c : Char} (h : (chars p).getLast? = some c) :
    Text.isBlank c = false := by
  induction p with
  | nil => cases h
  | cons s p ih =>
    rw [chars_cons] at h
    by_cases hp : p = []
    · rw [hp, tail, List.flatMap_nil, List.append_nil] at h
      exact (s.solid c (List.mem_of_getLast? h)).2
    · rw [tail_eq_cons hp, List.getLast?_append_of_ne_nil _ (List.cons_ne_nil _ _)] at h
      obtain ⟨d, ds, hchars⟩ := List.exists_cons_of_ne_nil (chars_ne_nil hp)
      rw [hchars, List.getLast?_cons_cons, ← hchars] at h
      exact ih h

/-- A text of segments is canonical but for the `\` in front. -/
theorem canonical_chars (p : NamePath) : canonical (chars p) = '\\' :: chars p := by
  have htrim : Text.trim (chars p) = chars p :=
    Text.trim_eq_self (fun _ h => (solid_of_head? h).2) fun _ h => solid_of_getLast? h
  have hlead : Text.dropLeading '\\' (chars p) = chars p :=
    Text.dropWhile_eq_self fun _ h => beq_false_of_ne (solid_of_head? h).1
  rw [canonical, htrim, hlead]

theorem toList_text_name {kind : NameKind} (p : NamePath) :
    (name p : Name kind).text.toList = '\\' :: chars p := by
  rw [name, text, Name.toList_text_ofText, canonical_chars]

theorem segments_name {kind : NameKind} {p : NamePath} (hp : p ≠ []) :
    (name p : Name kind).segments = p.map Segment.chars := by
  rw [Name.segments, toList_text_name, List.drop_one, List.tail_cons, chars]
  refine Text.segments_intercalate (by simpa using hp) ?_
  intro cs hcs
  obtain ⟨s, _, rfl⟩ := List.mem_map.mp hcs
  exact s.backslash_not_mem

/-! ## The first segment -/

theorem takeWhile_chars (s : Segment) (p : NamePath) :
    (chars (s :: p)).takeWhile (· != '\\') = s.chars := by
  have hsolid : ∀ c ∈ s.chars, (c != '\\') = true := fun c hc => by simpa using (s.solid c hc).1
  rw [chars_cons, List.takeWhile_append_of_pos hsolid]
  cases p with
  | nil => simp [tail]
  | cons t p => simp [tail]

theorem dropWhile_chars (s : Segment) (p : NamePath) :
    (chars (s :: p)).dropWhile (· != '\\') = tail p := by
  have hsolid : ∀ c ∈ s.chars, (c != '\\') = true := fun c hc => by simpa using (s.solid c hc).1
  rw [chars_cons, List.dropWhile_append_of_pos hsolid]
  cases p with
  | nil => rfl
  | cons t p => simp [tail]

theorem contains_backslash (s : Segment) (p : NamePath) :
    (chars (s :: p)).contains '\\' = !p.isEmpty := by
  cases p with
  | nil =>
    have hnot : '\\' ∉ chars [s] := by simpa [chars_cons, tail] using s.backslash_not_mem
    simpa using hnot
  | cons t p => simp [chars_cons, tail]

/-- A path is no name that starts with a `\`. -/
theorem text_relative (s : Segment) (p : NamePath) (cs : List Char) :
    (text (s :: p)).toList ≠ '\\' :: cs := by
  intro h
  rw [toList_text] at h
  have hhead : (chars (s :: p)).head? = some '\\' := by rw [h, List.head?_cons]
  exact (solid_of_head? hhead).1 rfl

theorem text_rooted (p : NamePath) : ("\\" ++ text p).toList = '\\' :: chars p := by
  rw [String.toList_append, toList_text]
  rfl

end NamePath

/-! ## Names in a file -/

namespace Context

open NamePath

/-- The namespace of the file is the given path, which is empty where there is none, and imports
stand for paths. -/
structure InPaths (ctx : Context) (ns : NamePath) : Prop where
  currentNamespace : ctx.currentNamespace.getD "" = text ns
  targets : ∀ e ∈ ctx.imports.entries, ∃ p : NamePath, p ≠ [] ∧ e.2 = text p

variable {ctx : Context} {ns : NamePath}

theorem qualify_path (h : ctx.InPaths ns) {p : NamePath} (hp : p ≠ []) :
    ctx.qualify (text p) = text (ns ++ p) := by
  have hns := h.currentNamespace
  rw [qualify]
  cases hcurrent : ctx.currentNamespace with
  | none =>
    rw [hcurrent] at hns
    have hnone : ns = [] := text_eq_empty_iff.mp hns.symm
    rw [hnone, List.nil_append]
  | some current =>
    rw [hcurrent, Option.getD_some] at hns
    subst hns
    dsimp only
    by_cases hempty : ns = []
    · subst hempty
      exact if_pos rfl
    · have hne : ¬(text ns).isEmpty = true := by
        rw [String.isEmpty_iff, text_eq_empty_iff]
        exact hempty
      rw [if_neg hne, ← String.toList_inj]
      simp only [String.toList_append, toList_text]
      rw [chars_append hempty, tail_eq_cons hp]
      simp

theorem expand_path (s : Segment) (p : NamePath) :
    ctx.expand (text (s :: p)) =
      match ctx.imports.find? s.text with
      | some target => target ++ String.ofList (tail p)
      | none => ctx.qualify (text (s :: p)) := by
  rw [expand, toList_text, takeWhile_chars, dropWhile_chars]
  rfl

/-- The first segment is replaced by the segments that it is an alias of. -/
theorem expand_alias {s : Segment} {target : NamePath} (htarget : target ≠ [])
    (h : ctx.imports.Gives s.text (text target)) (p : NamePath) :
    ctx.expand (text (s :: p)) = text (target ++ p) := by
  rw [expand_path, Imports.find?_of_gives h]
  dsimp only
  rw [← String.toList_inj]
  simp only [String.toList_append, toList_text, String.toList_ofList]
  rw [chars_append htarget]

theorem expand_unknown (hctx : ctx.InPaths ns) {s : Segment} (h : ctx.imports.Misses s.text)
    (p : NamePath) : ctx.expand (text (s :: p)) = text (ns ++ s :: p) := by
  rw [expand_path, Imports.find?_eq_none_iff.mpr h]
  exact qualify_path hctx (List.cons_ne_nil s p)

/-- An alias does not stand for the empty path. -/
theorem InPaths.target_ne_nil (hctx : ctx.InPaths ns) {key : String} {target : NamePath}
    (h : ctx.imports.Gives key (text target)) : target ≠ [] := by
  obtain ⟨e, he, htext⟩ := h.entry
  obtain ⟨p, hp, hpath⟩ := hctx.targets e he
  rintro rfl
  rw [htext] at hpath
  exact hp (text_eq_empty_iff.mp hpath.symm)

theorem InPaths.misses_or_gives (hctx : ctx.InPaths ns) (key : String) :
    ctx.imports.Misses key ∨ ∃ target : NamePath, ctx.imports.Gives key (text target) := by
  cases hfind : ctx.imports.find? key with
  | none => exact .inl (Imports.find?_eq_none_iff.mp hfind)
  | some target =>
    have hgives := Imports.gives_of_find? hfind
    obtain ⟨e, he, rfl⟩ := hgives.entry
    obtain ⟨p, _, hpath⟩ := hctx.targets e he
    rw [hpath] at hgives
    exact .inr ⟨p, hgives⟩

end Context

end GotoDefinition
