import GotoDefinition.Proofs.Naming.Paths

/-!
# GotoDefinition.Proofs.Naming.Classes

The class that a name stands for, on segments.

A name behind a `\` is complete. Of any other name the first segment is looked up among the imports,
and replaced by what it is an alias of; what is no alias is put behind the namespace of the file.
There is no other way to read the name of a class, so inside a namespace a name without a `\` in
front and without an import never stands for the global class.

* `resolveClass_alias`, `resolveClass_unknown`, `resolveClass_complete` — the three ways.
* `resolveClass_segments` — all of them, on the segments of the name that they give.
-/

namespace GotoDefinition

namespace Context

open NamePath

variable {ctx : Context} {ns : NamePath}

theorem resolveClass_complete (ctx : Context) (p : NamePath) :
    ctx.resolveClass ("\\" ++ text p) = name p :=
  resolveClass_rooted (text_rooted p)

theorem resolveClass_alias {s : Segment} {target : NamePath} (htarget : target ≠ [])
    (h : ctx.imports.Gives s.text (text target)) (p : NamePath) :
    ctx.resolveClass (text (s :: p)) = name (target ++ p) := by
  rw [resolveClass_relative (text_relative s p), expand_alias htarget h, name]

theorem resolveClass_unknown (hctx : ctx.InPaths ns) {s : Segment}
    (h : ctx.imports.Misses s.text) (p : NamePath) :
    ctx.resolveClass (text (s :: p)) = name (ns ++ s :: p) := by
  rw [resolveClass_relative (text_relative s p), expand_unknown hctx h, name]

end Context

namespace NamePath

/-- A path behind another one is not the name that it is alone. -/
theorem not_same_behind {ns p : NamePath} (hns : ns ≠ []) (hp : p ≠ []) :
    (name (ns ++ p) : ClassName).same (name p) = false := by
  rw [← Bool.not_eq_true, Name.same_iff]
  intro hkey
  have halike : Text.alike (name (ns ++ p) : ClassName).text (name p : ClassName).text = true :=
    Text.alike_iff.mpr hkey
  rw [Text.alike_iff_map, toList_text_name, toList_text_name, chars_append hns,
    tail_eq_cons hp] at halike
  have hlength := congrArg List.length halike
  simp only [List.length_map, List.length_cons, List.length_append] at hlength
  omega

end NamePath

namespace Context

open NamePath

variable {ctx : Context} {ns : NamePath}

/-- In a file whose namespace and imports are paths, the name of a class has its own segments when a
`\` stands in front of it, and otherwise those that its first segment is an alias of before the rest
of its own, or those of the namespace before its own. In the last case it is not the global class of
these segments, unless there is no namespace. -/
theorem resolveClass_segments (hctx : ctx.InPaths ns) (s : Segment) (p : NamePath) :
    (ctx.resolveClass ("\\" ++ text (s :: p))).segments = (s :: p).map Segment.chars ∧
    (∀ target : NamePath, ctx.imports.Gives s.text (text target) →
      (ctx.resolveClass (text (s :: p))).segments = (target ++ p).map Segment.chars) ∧
    (ctx.imports.Misses s.text →
      (ctx.resolveClass (text (s :: p))).segments = (ns ++ s :: p).map Segment.chars ∧
        (ns ≠ [] → (ctx.resolveClass (text (s :: p))).same (name (s :: p)) = false)) ∧
    (ctx.imports.Misses s.text ∨
      ∃ target : NamePath, ctx.imports.Gives s.text (text target)) := by
  refine ⟨?_, ?_, ?_, hctx.misses_or_gives s.text⟩
  · rw [resolveClass_complete]
    exact segments_name (List.cons_ne_nil s p)
  · intro target htarget
    have hne : target ≠ [] := hctx.target_ne_nil htarget
    rw [resolveClass_alias hne htarget]
    exact segments_name (List.append_ne_nil_of_left_ne_nil hne p)
  · intro hmisses
    rw [resolveClass_unknown hctx hmisses]
    refine ⟨segments_name (List.append_ne_nil_of_right_ne_nil ns (List.cons_ne_nil s p)), ?_⟩
    exact fun hns => not_same_behind hns (List.cons_ne_nil s p)

/-! ## A file with an import -/

namespace Specified

def app : Segment := ⟨"App".toList, by decide, Segment.solid_of_all rfl⟩

def http : Segment := ⟨"Http".toList, by decide, Segment.solid_of_all rfl⟩

def swagger : Segment := ⟨"Swagger".toList, by decide, Segment.solid_of_all rfl⟩

def openApi : Segment := ⟨"OpenAPI".toList, by decide, Segment.solid_of_all rfl⟩

def endpoint : Segment := ⟨"Endpoint".toList, by decide, Segment.solid_of_all rfl⟩

/-- The alias, in letters that the import does not have. -/
def oa : Segment := ⟨"oa".toList, by decide, Segment.solid_of_all rfl⟩

/-- `namespace App\Http; use Swagger\OpenAPI as OA;` -/
def context : Context :=
  (Context.inNamespace "App\\Http").withImport "OA" "Swagger\\OpenAPI"

theorem inPaths : context.InPaths [app, http] where
  currentNamespace := rfl
  targets e he := by
    have hentries : context.imports.entries = [("OA", "Swagger\\OpenAPI")] := by decide +kernel
    rw [hentries, List.mem_singleton] at he
    rw [he]
    exact ⟨[swagger, openApi], List.cons_ne_nil _ _, rfl⟩

end Specified

open Specified in
/-- `oa\Endpoint` is the import's; `\oa\Endpoint` and `Endpoint\oa` have nothing to do with it. -/
theorem resolveClass_segments_specified :
    context.InPaths [app, http] ∧ context.imports.Gives oa.text (text [swagger, openApi]) ∧
    (context.resolveClass "oa\\Endpoint").segments =
      ["Swagger".toList, "OpenAPI".toList, "Endpoint".toList] ∧
    (context.resolveClass "\\oa\\Endpoint").segments = ["oa".toList, "Endpoint".toList] ∧
    context.imports.Misses endpoint.text ∧
    (context.resolveClass "Endpoint\\oa").segments =
      ["App".toList, "Http".toList, "Endpoint".toList, "oa".toList] := by
  have hgives : context.imports.Gives oa.text (text [swagger, openApi]) :=
    Imports.gives_of_find? (by decide +kernel)
  have hmisses : context.imports.Misses endpoint.text :=
    Imports.find?_eq_none_iff.mp (by decide +kernel)
  obtain ⟨hcomplete, halias, _, _⟩ := resolveClass_segments inPaths oa [endpoint]
  obtain ⟨_, _, hunknown, _⟩ := resolveClass_segments inPaths endpoint [oa]
  exact ⟨inPaths, hgives, halias _ hgives, hcomplete, hmisses, (hunknown hmisses).1⟩

end Context

end GotoDefinition
