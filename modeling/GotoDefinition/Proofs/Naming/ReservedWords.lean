import GotoDefinition.Proofs.Naming.Aliases
import GotoDefinition.Proofs.Spelling.Names
import Mathlib.Data.List.TakeWhile

/-!
# GotoDefinition.Proofs.Naming.ReservedWords

Which names without a `\` stand for a class of the file.

Some words stand for the surrounding class or its parent, others for a native type, in any case and
whatever the file imports. Three native types have a second word besides the one that they are
written with, and these words are taken like the rest. Every other name is that of a class: the one
that it is imported as, or one of the namespace.

* `NativeType.fold_mem_words` — the words that are read as native types.
* `Context.denotes_iff` — the class that a file makes of a name.
* `CodeBase.free_words_name_classes` — a word that is not taken is the name of that class.
* `CodeBase.typeOf_of_second` — a second word is a native type in every file.
* `CodeBase.integer_names_no_class` — also in a file that imports a class under it.
-/

namespace GotoDefinition

/-! ## Words -/

namespace NativeType

/-- All words that are read as the type, written small. -/
def words : NativeType → List String
  | int => ["int", "integer"]
  | float => ["float", "double"]
  | bool => ["bool", "boolean"]
  | t => [t.word]

/-- The words that native types are read from but never written with. -/
def secondWords : List String :=
  ["integer", "double", "boolean"]

theorem fold_mem_words {s : String} {t : NativeType} (h : ofWord? s = some t) :
    Text.fold s ∈ t.words := by
  rw [ofWord?] at h
  split at h <;> cases h <;> simp [words, word, *]

theorem word_or_second {t : NativeType} {w : String} (h : w ∈ t.words) :
    w = t.word ∨ w ∈ secondWords := by
  cases t <;> simp only [words, List.mem_cons, List.not_mem_nil, or_false] at h
  case int | float | bool =>
    rcases h with rfl | rfl
    · exact .inl rfl
    · exact .inr (by decide)
  all_goals exact .inl h

theorem fold_word (t : NativeType) : Text.fold t.word = t.word := by
  cases t <;> decide +kernel

/-- A second word is read as a native type in any case. -/
theorem ofWord?_of_second {s w : String} (hw : w ∈ secondWords) (h : Text.alike s w = true) :
    ∃ t, ofWord? s = some t := by
  simp only [secondWords, List.mem_cons, List.not_mem_nil, or_false] at hw
  rw [ofWord?_congr h]
  rcases hw with rfl | rfl | rfl
  · exact ⟨int, by decide +kernel⟩
  · exact ⟨float, by decide +kernel⟩
  · exact ⟨bool, by decide +kernel⟩

end NativeType

/-- The words for the surrounding class and its parent. -/
def classWords : List String :=
  ["self", "static", "parent"]

/-- Neither a word for the surrounding class nor one that a native type is written with. -/
structure FreeWord (name : String) : Prop where
  notClass : ∀ w ∈ classWords, Text.alike name w = false
  notNative : ∀ t : NativeType, Text.alike name t.word = false

theorem fold_ne_of_not_alike {name w : String} (hw : Text.fold w = w)
    (h : Text.alike name w = false) : Text.fold name ≠ w := by
  rw [Text.alike, hw] at h
  simpa using h

theorem FreeWord.ofWord?_eq_none {name : String} (h : FreeWord name)
    (hsecond : ∀ w ∈ NativeType.secondWords, Text.alike name w = false) :
    NativeType.ofWord? name = none := by
  cases hread : NativeType.ofWord? name with
  | none => rfl
  | some t =>
    rcases NativeType.word_or_second (NativeType.fold_mem_words hread) with hword | hword
    · exact absurd hword (fold_ne_of_not_alike t.fold_word (h.notNative t))
    · have hsmall : Text.fold (Text.fold name) = Text.fold name := by
        simp only [NativeType.secondWords, List.mem_cons, List.not_mem_nil, or_false] at hword
        rcases hword with hword | hword | hword <;> rw [hword] <;> decide +kernel
      exact absurd rfl (fold_ne_of_not_alike hsmall (hsecond _ hword))

/-! ## Classes of a file -/

namespace Context

/-- The class that a name without a `\` stands for in a file: the one that it is imported as, or
that of the namespace. -/
inductive Denotes (ctx : Context) (name : String) : ClassName → Prop where
  | imported {target : String} (h : ctx.imports.Gives name target) :
      Denotes ctx name (Name.ofText target)
  | inNamespace {ns : String} (h : ctx.imports.Misses name)
      (hcurrent : ctx.currentNamespace = some ns) (hne : ns ≠ "") :
      Denotes ctx name (Name.ofText (ns ++ "\\" ++ name))
  | global (h : ctx.imports.Misses name) (hcurrent : ctx.currentNamespace.getD "" = "") :
      Denotes ctx name (Name.ofText name)

variable {ctx : Context} {name : String}

theorem expand_unqualified (h : '\\' ∉ name.toList) :
    ctx.expand name = (ctx.imports.find? name).getD (ctx.qualify name) := by
  have hsegment : ∀ c ∈ name.toList, (c != '\\') = true := by
    intro c hc
    rw [bne_iff_ne]
    rintro rfl
    exact h hc
  have hfirst : name.toList.takeWhile (· != '\\') = name.toList :=
    List.takeWhile_eq_self_iff.mpr hsegment
  have hrest : name.toList.dropWhile (· != '\\') = [] := List.dropWhile_eq_nil_iff.mpr hsegment
  simp only [expand, hfirst, hrest, String.ofList_toList]
  cases ctx.imports.find? name with
  | none => rfl
  | some target => exact String.append_empty

theorem resolveClass_unqualified (h : '\\' ∉ name.toList) :
    ctx.resolveClass name = Name.ofText ((ctx.imports.find? name).getD (ctx.qualify name)) := by
  have hrelative : ∀ cs, name.toList ≠ '\\' :: cs := by
    intro cs hcs
    rw [hcs] at h
    exact h List.mem_cons_self
  rw [resolveClass_relative hrelative, expand_unqualified h]

theorem denotes_resolveClass (h : '\\' ∉ name.toList) :
    ctx.Denotes name (ctx.resolveClass name) := by
  rw [resolveClass_unqualified h]
  cases hfind : ctx.imports.find? name with
  | some target => exact .imported (Imports.gives_of_find? hfind)
  | none =>
    have hmisses := Imports.find?_eq_none_iff.mp hfind
    rw [Option.getD_none, qualify]
    cases hcurrent : ctx.currentNamespace with
    | none => exact .global hmisses (by rw [hcurrent, Option.getD_none])
    | some ns =>
      dsimp only
      split
      · rename_i hempty
        refine .global hmisses ?_
        rw [hcurrent, Option.getD_some]
        exact String.isEmpty_iff.mp hempty
      · rename_i hne
        exact .inNamespace hmisses hcurrent fun hempty => hne (String.isEmpty_iff.mpr hempty)

theorem Denotes.eq_resolveClass {c : ClassName} (h : '\\' ∉ name.toList)
    (hc : ctx.Denotes name c) : c = ctx.resolveClass name := by
  rw [resolveClass_unqualified h]
  cases hc with
  | imported hgives => rw [Imports.find?_of_gives hgives, Option.getD_some]
  | @inNamespace ns hmisses hcurrent hne =>
    have hqualify : ctx.qualify name = ns ++ "\\" ++ name := by
      rw [qualify, hcurrent]
      exact if_neg fun hempty => hne (String.isEmpty_iff.mp hempty)
    rw [Imports.find?_eq_none_iff.mpr hmisses, Option.getD_none, hqualify]
  | global hmisses hcurrent =>
    have hqualify : (ctx.qualify name == name) = true := by
      rw [qualify_beq_self, hcurrent]
      rfl
    rw [Imports.find?_eq_none_iff.mpr hmisses, Option.getD_none, beq_iff_eq.mp hqualify]

theorem denotes_iff (h : '\\' ∉ name.toList) (c : ClassName) :
    ctx.Denotes name c ↔ c = ctx.resolveClass name := by
  constructor
  · exact Denotes.eq_resolveClass h
  · rintro rfl
    exact denotes_resolveClass h

end Context

/-! ## Types of names -/

namespace CodeBase

variable {cb : CodeBase} {ctx : Context} {name : String}

theorem namedType_of_not_class (h : '\\' ∉ name.toList)
    (hclass : ∀ w ∈ classWords, Text.alike name w = false) :
    cb.namedType ctx name = .ok (match NativeType.ofWord? name with
      | some t => .native t
      | none => .instanceOf (ctx.resolveClass name)) := by
  have hself : Text.fold name ≠ "self" :=
    fold_ne_of_not_alike (by decide +kernel) (hclass _ (by decide))
  have hstatic : Text.fold name ≠ "static" :=
    fold_ne_of_not_alike (by decide +kernel) (hclass _ (by decide))
  have hparent : Text.fold name ≠ "parent" :=
    fold_ne_of_not_alike (by decide +kernel) (hclass _ (by decide))
  cases hread : NativeType.ofWord? name <;> simp [namedType, hself, hstatic, hparent, h, hread]

theorem namedType_of_free (h : '\\' ∉ name.toList) (hfree : FreeWord name)
    (hsecond : ∀ w ∈ NativeType.secondWords, Text.alike name w = false) :
    cb.namedType ctx name = .ok (.instanceOf (ctx.resolveClass name)) := by
  rw [namedType_of_not_class h hfree.notClass, hfree.ofWord?_eq_none hsecond]

theorem typeOf_classRef_of_namedType {t : Ty} (h : cb.namedType ctx name = .ok t) (r : Range) :
    cb.typeOf ctx (.mk (.classRef name) r) = .ok (UnionType.ofList [t]) := by
  rw [typeOf, h]

/-- A second word of a native type is taken in any case, in every file of every code base. -/
theorem typeOf_of_second {w : String} (hw : w ∈ NativeType.secondWords)
    (h : Text.alike name w = true) (r : Range) :
    ∃ t, cb.typeOf ctx (.mk (.classRef name) r) = .ok (UnionType.ofList [.native t]) := by
  obtain ⟨t, hread⟩ := NativeType.ofWord?_of_second hw h
  have hunqualified : '\\' ∉ name.toList := by
    have hword : ∀ u ∈ NativeType.secondWords, u.toList.contains '\\' = false := by decide
    have hname := Text.contains_backslash_congr h
    rw [hword w hw] at hname
    simpa using hname
  have hclass : ∀ v ∈ classWords, Text.alike name v = false := by
    intro v hv
    have hapart : ∀ u ∈ NativeType.secondWords, ∀ v ∈ classWords, Text.alike u v = false := by
      decide +kernel
    rw [Text.alike, Text.alike_iff.mp h]
    exact hapart w hw v hv
  have htype : cb.namedType ctx name = .ok (.native t) := by
    rw [namedType_of_not_class hunqualified hclass, hread]
  exact ⟨t, typeOf_classRef_of_namedType htype r⟩

theorem classRecords_instanceOf {c : ClassName} {e : ClassEntry} (h : cb.findClass? c = some e)
    (t : Toggles) :
    (cb.resolver t).classRecords (UnionType.ofList [.instanceOf c]) =
      [.declaration (.classLike e.decl) false] := by
  have hhas : (cb.resolver t).index.hasClass c = true := by
    have hsome : (cb.findClass? c).isSome = true := by rw [h, Option.isSome_some]
    exact hsome
  have hdecl : (cb.resolver t).index.findClass? c = some e.decl :=
    congrArg (Option.map ClassEntry.decl) h
  rw [Resolver.classRecords, UnionType.classes_instanceOf, List.filter_cons_of_pos hhas,
    List.filterMap_cons_some hdecl]
  rfl

/-- A name without a `\` that is no word for the surrounding class and no word that is read as a
native type is of the class that the file makes of it, and a request is given the entry of this
class if there is one. -/
theorem free_words_name_classes (cb : CodeBase) (ctx : Context) {name : String}
    (hunqualified : '\\' ∉ name.toList) (hfree : FreeWord name)
    (hsecond : ∀ w ∈ NativeType.secondWords, Text.alike name w = false) (r : Range) :
    ∃ c, (∀ d, ctx.Denotes name d ↔ d = c) ∧
      cb.typeOf ctx (.mk (.classRef name) r) = .ok (UnionType.ofList [.instanceOf c]) ∧
      ∀ e, cb.findClass? c = some e → ∀ (t : Toggles) (req : Request),
        t.allow req.mode = true →
          (cb.resolver t).resolve ctx (.mk (.classRef name) r) req =
            req.append [.declaration (.classLike e.decl) false] := by
  have htype : cb.typeOf ctx (.mk (.classRef name) r) =
      .ok (UnionType.ofList [.instanceOf (ctx.resolveClass name)]) :=
    typeOf_classRef_of_namedType (namedType_of_free hunqualified hfree hsecond) r
  refine ⟨ctx.resolveClass name, Context.denotes_iff hunqualified, htype, ?_⟩
  intro e he t req hallow
  have htargets : (cb.resolver t).targets req.mode ctx (.mk (.classRef name) r) =
      .ok [.declaration (.classLike e.decl) false] := by
    rw [targets_classRef, htype, Except.map, classRecords_instanceOf he]
  rw [Resolver.resolve, Resolver.records_of_targets hallow htargets]

/-! ## Imported numbers -/

namespace Imported

def number (name : String) (line : UInt32) : ClassEntry :=
  ⟨Name.ofText name, .ordinary, ⟨"file:///src/numbers.php"⟩, line, none, [], [], [], [], []⟩

def codeBase : CodeBase :=
  ofSnapshot ⟨[number "Math\\Natural" 3, number "Math\\Integer" 8], [], []⟩

/-- `use Math\Natural; use Math\Integer;` -/
def context : Context :=
  (Context.empty.withImport "Natural" "Math\\Natural").withImport "Integer" "Math\\Integer"

theorem freeWord_natural : FreeWord "natural" where
  notClass := by decide +kernel
  notNative t := by cases t <;> decide +kernel

theorem freeWord_integer : FreeWord "Integer" where
  notClass := by decide +kernel
  notNative t := by cases t <;> decide +kernel

end Imported

open Imported in
/-- The import is found in another case, and the class is recorded. -/
theorem free_words_name_classes_imported :
    '\\' ∉ "natural".toList ∧ FreeWord "natural" ∧
    (∀ w ∈ NativeType.secondWords, Text.alike "natural" w = false) ∧
    context.Denotes "natural" (Name.ofText "Math\\Natural") ∧
    codeBase.typeOf context (Node.classRef "natural") =
      .ok (UnionType.ofList [.instanceOf (Name.ofText "Math\\Natural")]) ∧
    (codeBase.resolver Toggles.all).resolve context (Node.classRef "natural")
        (Request.start .definition) =
      (Request.start .definition).append
        [.declaration (.classLike (number "Math\\Natural" 3).decl) false] := by
  have hunqualified : '\\' ∉ "natural".toList := by decide
  have hsecond : ∀ w ∈ NativeType.secondWords, Text.alike "natural" w = false := by
    decide +kernel
  obtain ⟨c, hdenotes, htype, hrecorded⟩ :=
    free_words_name_classes codeBase context hunqualified freeWord_natural hsecond Range.zero
  have himported : context.Denotes "natural" (Name.ofText "Math\\Natural") :=
    .imported (Imports.gives_of_find? (by decide +kernel))
  have hc : Name.ofText "Math\\Natural" = c := (hdenotes _).mp himported
  subst hc
  exact ⟨hunqualified, freeWord_natural, hsecond, himported, htype,
    hrecorded _ (by decide +kernel) Toggles.all _ rfl⟩

open Imported in
/-- `Integer` is no word that a native type is written with, and the file imports a class of that
name. It is read as the native type nevertheless, and the class is not recorded. -/
theorem integer_names_no_class :
    '\\' ∉ "Integer".toList ∧ "Integer" ≠ "" ∧ FreeWord "Integer" ∧
    (∀ c, context.Denotes "Integer" c ↔ c = Name.ofText "Math\\Integer") ∧
    codeBase.findClass? (Name.ofText "Math\\Integer") = some (number "Math\\Integer" 8) ∧
    codeBase.typeOf context (Node.classRef "Integer") = .ok (UnionType.ofList [.native .int]) ∧
    codeBase.typeOf context (Node.classRef "Integer") ≠
      .ok (UnionType.ofList [.instanceOf (Name.ofText "Math\\Integer")]) ∧
    (codeBase.resolver Toggles.all).resolve context (Node.classRef "Integer")
      (Request.start .definition) = Request.start .definition := by
  have hunqualified : '\\' ∉ "Integer".toList := by decide
  have hclass : context.resolveClass "Integer" = Name.ofText "Math\\Integer" := by decide +kernel
  have htype : codeBase.typeOf context (Node.classRef "Integer") =
      .ok (UnionType.ofList [.native .int]) := eq_ok_of_toOption (by decide +kernel)
  have htargets : (codeBase.resolver Toggles.all).targets .definition context
      (Node.classRef "Integer") = .ok [] := by
    rw [Node.classRef, Node.ofShape, targets_classRef, ← Node.ofShape, ← Node.classRef, htype]
    rfl
  refine ⟨hunqualified, by decide, freeWord_integer, ?_, by decide +kernel, htype, ?_, ?_⟩
  · rw [← hclass]
    exact Context.denotes_iff hunqualified
  · rw [htype]
    decide +kernel
  · have hrecords : (codeBase.resolver Toggles.all).records .definition context
        (Node.classRef "Integer") = [] := Resolver.records_of_targets rfl htargets
    exact congrArg (Request.append _) hrecords

end CodeBase

end GotoDefinition
