import GotoDefinition.Proofs.Naming.Classes
import GotoDefinition.Proofs.Targets

/-!
# GotoDefinition.Proofs.Naming.Globals

The functions and constants that names stand for, on segments.

They are sought under one path when a `\` stands in front of the name or inside it: under the name
itself, or under what the first segment is an alias of, or in the namespace. A name without a `\` is
no alias; it is sought in the namespace and then globally. This is the one case with a second place
to look.

* `Context.candidates_complete`, `Context.candidates_qualified`, `Context.candidates_unqualified` —
  the texts that a name is looked up as.
* `soughtUnder_of_candidates` — the declarations of some texts are those of the paths.
* `globals_by_path` — the paths of each kind of name.
-/

namespace GotoDefinition

variable {α : Type}

/-! ## Texts that are looked up -/

namespace Context

open NamePath

variable {ctx : Context} {ns : NamePath}

theorem candidates_complete (ctx : Context) (p : NamePath) :
    ctx.candidates ("\\" ++ text p) = [text p] :=
  candidates_rooted (text_rooted p)

theorem candidates_qualified (ctx : Context) (s : Segment) {p : NamePath} (hp : p ≠ []) :
    ctx.candidates (text (s :: p)) = [ctx.expand (text (s :: p))] := by
  have hbackslash : (text (s :: p)).toList.contains '\\' = true := by
    rw [toList_text, contains_backslash]
    simpa using hp
  rw [candidates_relative (text_relative s p), if_pos hbackslash]

theorem candidates_unqualified (hctx : ctx.InPaths ns) (s : Segment) :
    ctx.candidates s.text = if ns = [] then [text [s]] else [text (ns ++ [s]), text [s]] := by
  have hbackslash : ¬(text [s]).toList.contains '\\' = true := by
    rw [toList_text, contains_backslash]
    exact Bool.false_ne_true
  rw [← text_singleton, candidates_relative (text_relative s []), if_neg hbackslash,
    qualify_path hctx (List.cons_ne_nil s []), hctx.currentNamespace]
  simp only [String.isEmpty_iff, text_eq_empty_iff]

end Context

/-! ## Declarations of paths -/

/-- The lookup of a symbol succeeds with what there is, and fails for the symbol when there is
nothing. -/
structure Answers (x : Except LookupError α) (symbol : String) (found : Option α) : Prop where
  ok_iff : ∀ d, x = .ok d ↔ found = some d
  error_iff : ∀ e, x = .error e ↔ found = none ∧ e = .undeclared symbol

theorem answers_some (d : α) (symbol : String) : Answers (.ok d) symbol (some d) where
  ok_iff := by simp
  error_iff := by simp

theorem answers_none (symbol : String) :
    Answers (.error (.undeclared symbol) : Except LookupError α) symbol none where
  ok_iff := by simp
  error_iff := by simp [eq_comm]

namespace CodeBase

open NamePath

/-- A name is that of the function, and of the constant, that is declared under the first of some
paths under which there is one. When there is none under any, the lookup fails for the name. -/
structure SoughtUnder (cb : CodeBase) (ctx : Context) (name : String) (paths : List NamePath) :
    Prop where
  functions : ∀ r, ∃ x, cb.members.functions ctx (.mk (.classRef name) r) = [x] ∧
    Answers x (name ++ "()") (paths.findSome? fun p => cb.findFunction? (NamePath.name p))
  constant : ∀ r, Answers (cb.members.constant ctx (.mk (.constantRef name) r)) name
    (paths.findSome? fun p => cb.findConstant? (NamePath.name p))

variable {cb : CodeBase} {ctx : Context} {ns : NamePath}

theorem namedFunction_answers (cb : CodeBase) (ctx : Context) (name : String) :
    Answers (cb.namedFunction ctx name) (name ++ "()")
      ((ctx.candidates name).findSome? fun text => cb.findFunction? (Name.ofText text)) := by
  rw [namedFunction]
  cases (ctx.candidates name).findSome? fun text => cb.findFunction? (Name.ofText text) with
  | some d => exact answers_some d _
  | none => exact answers_none _

theorem namedConstant_answers (cb : CodeBase) (ctx : Context) (name : String) :
    Answers (cb.namedConstant ctx name) name
      ((ctx.candidates name).findSome? fun text => cb.findConstant? (Name.ofText text)) := by
  rw [namedConstant]
  cases (ctx.candidates name).findSome? fun text => cb.findConstant? (Name.ofText text) with
  | some d => exact answers_some d _
  | none => exact answers_none _

theorem soughtUnder_of_candidates {name : String} {paths : List NamePath}
    (h : ctx.candidates name = paths.map text) : cb.SoughtUnder ctx name paths where
  functions r := by
    have hanswers := namedFunction_answers cb ctx name
    rw [h, List.findSome?_map] at hanswers
    exact ⟨_, rfl, hanswers⟩
  constant r := by
    have hanswers := namedConstant_answers cb ctx name
    rw [h, List.findSome?_map] at hanswers
    exact hanswers

/-- Looking under a path a second time finds nothing new. -/
theorem SoughtUnder.again {name : String} {p : NamePath} (h : cb.SoughtUnder ctx name [p]) :
    cb.SoughtUnder ctx name [p, p] := by
  have hagain : ∀ {β : Type} (find : NamePath → Option β),
      [p, p].findSome? find = [p].findSome? find := by
    intro β find
    simp only [List.findSome?_cons, List.findSome?_nil]
    cases find p <;> rfl
  constructor
  · intro r
    rw [hagain]
    exact h.functions r
  · intro r
    rw [hagain]
    exact h.constant r

theorem soughtUnder_unqualified (hctx : ctx.InPaths ns) (s : Segment) :
    cb.SoughtUnder ctx s.text [ns ++ [s], [s]] := by
  have hcandidates := Context.candidates_unqualified hctx s
  by_cases hns : ns = []
  · subst hns
    rw [if_pos rfl] at hcandidates
    have honce : cb.SoughtUnder ctx s.text [[s]] := soughtUnder_of_candidates hcandidates
    exact honce.again
  · rw [if_neg hns] at hcandidates
    exact soughtUnder_of_candidates hcandidates

/-- In a file whose namespace and imports are paths, a name with a `\` in front is that of the
function or constant under the written path. A name with a `\` inside is that of the one under the
path that its first segment is an alias of, or in the namespace when it is none, and nowhere else. A
name without a `\` is that of the one in the namespace or, when there is none, of the global one. -/
theorem globals_by_path (cb : CodeBase) (hctx : ctx.InPaths ns) (s : Segment) (p : NamePath) :
    cb.SoughtUnder ctx ("\\" ++ text (s :: p)) [s :: p] ∧
    (p ≠ [] →
      (∀ target : NamePath, ctx.imports.Gives s.text (text target) →
        cb.SoughtUnder ctx (text (s :: p)) [target ++ p]) ∧
      (ctx.imports.Misses s.text → cb.SoughtUnder ctx (text (s :: p)) [ns ++ s :: p]) ∧
      (ctx.imports.Misses s.text ∨
        ∃ target : NamePath, ctx.imports.Gives s.text (text target))) ∧
    cb.SoughtUnder ctx s.text [ns ++ [s], [s]] := by
  refine ⟨?_, ?_, soughtUnder_unqualified hctx s⟩
  · exact soughtUnder_of_candidates (Context.candidates_complete ctx (s :: p))
  · intro hp
    have hcandidates := Context.candidates_qualified ctx s hp
    refine ⟨?_, ?_, hctx.misses_or_gives s.text⟩
    · intro target htarget
      rw [Context.expand_alias (hctx.target_ne_nil htarget) htarget] at hcandidates
      exact soughtUnder_of_candidates hcandidates
    · intro hmisses
      rw [Context.expand_unknown hctx hmisses] at hcandidates
      exact soughtUnder_of_candidates hcandidates

/-! ## Functions and constants of a file with an import -/

theorem SoughtUnder.functions_found {name : String} {paths : List NamePath} {f : FunctionDecl}
    (h : cb.SoughtUnder ctx name paths)
    (hfound : (paths.findSome? fun p => cb.findFunction? (NamePath.name p)) = some f) (r : Range) :
    cb.members.functions ctx (.mk (.classRef name) r) = [.ok f] := by
  obtain ⟨x, hx, hanswers⟩ := h.functions r
  rw [hx, (hanswers.ok_iff f).mpr hfound]

theorem SoughtUnder.functions_missing {name : String} {paths : List NamePath}
    (h : cb.SoughtUnder ctx name paths)
    (hmissing : (paths.findSome? fun p => cb.findFunction? (NamePath.name p)) = none) (r : Range) :
    cb.members.functions ctx (.mk (.classRef name) r) =
      [.error (.undeclared (name ++ "()"))] := by
  obtain ⟨x, hx, hanswers⟩ := h.functions r
  rw [hx, (hanswers.error_iff _).mpr ⟨hmissing, rfl⟩]

namespace Specified

def function (name : String) (line : UInt32) : FunctionEntry :=
  ⟨Name.ofText name, ⟨"file:///src/functions.php"⟩, line, UnionType.empty⟩

def constant (name : String) (line : UInt32) : ConstantEntry :=
  ⟨Name.ofText name, ⟨"file:///src/constants.php"⟩, line⟩

/-- Functions and constants whose last segment is also an alias. -/
def codeBase : CodeBase :=
  ofSnapshot ⟨[],
    [function "oa" 2, function "Swagger\\OpenAPI\\Endpoint" 3, function "Endpoint\\oa" 4],
    [constant "oa" 2, constant "App\\Http\\oa" 3]⟩

end Specified

open Specified Context.Specified in
/-- The alias `OA` is of no account to `oa`, and the global `Endpoint\oa` is not the one of the
namespace. -/
theorem globals_by_path_specified :
    context.InPaths [app, http] ∧ context.imports.Gives oa.text (text [swagger, openApi]) ∧
    codeBase.members.functions context (Node.classRef "oa") = [.ok (function "oa" 2).decl] ∧
    codeBase.members.constant context (Node.constantRef "oa") =
      .ok (constant "App\\Http\\oa" 3).decl ∧
    codeBase.members.functions context (Node.classRef "oa\\Endpoint") =
      [.ok (function "Swagger\\OpenAPI\\Endpoint" 3).decl] ∧
    context.imports.Misses endpoint.text ∧
    codeBase.members.functions context (Node.classRef "Endpoint\\oa") =
      [.error (.undeclared "Endpoint\\oa()")] ∧
    codeBase.members.functions context (Node.classRef "\\Endpoint\\oa") =
      [.ok (function "Endpoint\\oa" 4).decl] := by
  have hgives : context.imports.Gives oa.text (text [swagger, openApi]) :=
    Imports.gives_of_find? (by decide +kernel)
  have hmisses : context.imports.Misses endpoint.text :=
    Imports.find?_eq_none_iff.mp (by decide +kernel)
  obtain ⟨_, hqualified, hunqualified⟩ := globals_by_path codeBase inPaths oa [endpoint]
  obtain ⟨hcomplete, hbehind, _⟩ := globals_by_path codeBase inPaths endpoint [oa]
  obtain ⟨halias, _, _⟩ := hqualified (List.cons_ne_nil _ _)
  obtain ⟨_, hnamespaced, _⟩ := hbehind (List.cons_ne_nil _ _)
  have hconstant : ([[app, http] ++ [oa], [oa]] : List NamePath).findSome?
      (fun p => codeBase.findConstant? (NamePath.name p)) =
        some (constant "App\\Http\\oa" 3).decl := by decide +kernel
  refine ⟨inPaths, hgives, ?_, ?_, ?_, hmisses, ?_, ?_⟩
  · exact hunqualified.functions_found (by decide +kernel) Range.zero
  · exact ((hunqualified.constant Range.zero).ok_iff _).mpr hconstant
  · exact (halias _ hgives).functions_found (by decide +kernel) Range.zero
  · exact (hnamespaced hmisses).functions_missing (by decide +kernel) Range.zero
  · exact hcomplete.functions_found (by decide +kernel) Range.zero

end CodeBase

end GotoDefinition
