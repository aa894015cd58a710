import GotoDefinition.Proofs.Scopes

/-!
# GotoDefinition.Proofs.VariableTable

The variables of a scope are a map from names to types, whatever has become of the scope before.

One addition puts a variable in the place of one entry or at the end, and touches no other entry. So
after many of them each name has what was added under it last, and a name under which nothing was
added has what the scope had, even where the scope was read from a document in which a name stands
twice or with its `$`. Additions under different names can therefore be exchanged. A context looks
variables up in its scope, but for `this`, which within a class is an instance of that class.

* `Scope.puts_replaceFirst` — what one addition does to the list of entries.
* `Scope.find?_addAll_last`, `Scope.find?_addAll_absent` — what many additions leave.
* `Scope.addAll_exchange` — the order of additions under different names.
* `Context.findVariable?_this`, `Context.findVariable?_scope` — lookups in a context.
* `Scope.additions_make_a_map` — all of it for any run of additions to any scope.
-/

namespace GotoDefinition

namespace Scope

/-! ## One addition -/

/-- A variable takes the place of the first entry of its name, or comes behind all entries. -/
inductive Puts (v : Variable) : List Variable → List Variable → Prop where
  | replaced {before after : List Variable} {w : Variable} (hname : w.name = v.name)
      (hbefore : ∀ x ∈ before, x.name ≠ v.name) :
      Puts v (before ++ w :: after) (before ++ v :: after)
  | appended {ws : List Variable} (hnew : ∀ w ∈ ws, w.name ≠ v.name) : Puts v ws (ws ++ [v])

theorem Puts.cons {v w : Variable} {ws vs : List Variable} (hw : w.name ≠ v.name)
    (h : Puts v ws vs) : Puts v (w :: ws) (w :: vs) := by
  cases h with
  | @replaced before after x hname hbefore =>
    have hcons : ∀ y ∈ w :: before, y.name ≠ v.name := List.forall_mem_cons.mpr ⟨hw, hbefore⟩
    exact Puts.replaced hname hcons
  | appended hnew => exact .appended (List.forall_mem_cons.mpr ⟨hw, hnew⟩)

theorem puts_replaceFirst (v : Variable) (ws : List Variable) : Puts v ws (replaceFirst v ws) := by
  induction ws with
  | nil => exact .appended nofun
  | cons w ws ih =>
    rw [replaceFirst]
    split
    · rename_i hname
      have hnone : ∀ x ∈ [], Variable.name x ≠ v.name := nofun
      exact Puts.replaced (beq_iff_eq.mp hname) hnone
    · rename_i hname
      exact ih.cons (mt beq_iff_eq.mpr hname)

/-! ## Many additions -/

variable {s : Scope} {es before after : List (String × UnionType)} {e f : String × UnionType}

theorem addAll_append (s : Scope) (es fs : List (String × UnionType)) :
    s.addAll (es ++ fs) = (s.addAll es).addAll fs :=
  List.foldl_append

theorem lastType?_of_last {key : String} (hname : bare e.1 = key)
    (hafter : ∀ f ∈ after, bare f.1 ≠ key) :
    lastType? (before ++ e :: after) key = some e.2 := by
  have hreverse : (before ++ e :: after).reverse = after.reverse ++ e :: before.reverse := by simp
  have hlater : after.reverse.find? (fun f => bare f.1 == key) = none := by
    rw [List.find?_eq_none]
    intro f hf
    exact mt beq_iff_eq.mp (hafter f (List.mem_reverse.mp hf))
  have hfirst : (e :: before.reverse).find? (fun f => bare f.1 == key) = some e :=
    List.find?_cons_of_pos (beq_iff_eq.mpr hname)
  rw [lastType?, hreverse, List.find?_append, hlater, hfirst]
  rfl

theorem find?_addAll_last {name : String} (hname : bare e.1 = bare name)
    (hafter : ∀ f ∈ after, bare f.1 ≠ bare name) :
    (s.addAll (before ++ e :: after)).find? name = some (.named e.1 e.2) := by
  rw [find?_addAll, lastType?_of_last hname hafter, ← hname]
  rfl

theorem find?_addAll_absent {name : String} (h : ∀ e ∈ es, bare e.1 ≠ bare name) :
    (s.addAll es).find? name = s.find? name := by
  have hnone : lastType? es (bare name) = none := by
    rw [← Option.not_isSome_iff_eq_none, lastType?_isSome_iff]
    rintro ⟨e, he, hname⟩
    exact h e he hname
  rw [find?_addAll, hnone]
  rfl

/-- Of two neighbours with different names it does not matter which comes first. -/
theorem lastType?_exchange (hname : bare e.1 ≠ bare f.1) (key : String) :
    lastType? (f :: e :: after) key = lastType? (e :: f :: after) key := by
  rw [lastType?_cons, lastType?_cons, lastType?_cons, lastType?_cons]
  cases lastType? after key with
  | some u => rfl
  | none =>
    by_cases he : bare e.1 = key
    · have hf : bare f.1 ≠ key := fun hf => hname (he.trans hf.symm)
      simp [he, hf]
    · simp [he]

theorem addAll_exchange (hname : bare e.1 ≠ bare f.1) (name : String) :
    (s.addAll (before ++ f :: e :: after)).find? name =
      (s.addAll (before ++ e :: f :: after)).find? name := by
  have hrest : ∀ t : Scope,
      (t.addAll (f :: e :: after)).find? name = (t.addAll (e :: f :: after)).find? name := by
    intro t
    rw [find?_addAll t (f :: e :: after), find?_addAll t (e :: f :: after),
      lastType?_exchange hname]
  rw [addAll_append, addAll_append, hrest]

end Scope

/-! ## Contexts -/

namespace Context

/-- Variables added one after the other, under names that may have a `$` in front. -/
def withVariables (ctx : Context) (es : List (String × UnionType)) : Context :=
  es.foldl (fun ctx e => ctx.withVariable (.named e.1 e.2)) ctx

theorem withVariables_eq (ctx : Context) (es : List (String × UnionType)) :
    ctx.withVariables es = { ctx with scope := ctx.scope.addAll es } := by
  induction es generalizing ctx with
  | nil => rfl
  | cons e es ih => exact ih (ctx.withVariable (.named e.1 e.2))

theorem findVariable?_this {ctx : Context} {c : ClassName} {name : String}
    (hclass : ctx.enclosingClass = some c) (hname : Scope.bare name = "this") :
    ctx.findVariable? name = some ⟨"this", UnionType.ofList [.instanceOf c]⟩ := by
  have hthis : (Text.stripLeading '$' name == "this") = true := beq_iff_eq.mpr hname
  rw [findVariable?, if_pos hthis, hclass]

theorem findVariable?_scope {ctx : Context} {name : String}
    (h : ctx.enclosingClass = none ∨ Scope.bare name ≠ "this") :
    ctx.findVariable? name = ctx.scope.find? name := by
  have hnone : (if Text.stripLeading '$' name == "this" then ctx.enclosingClass else none) =
      none := by
    rcases h with hclass | hname
    · rw [hclass, ite_self]
    · exact if_neg (mt beq_iff_eq.mp hname)
  rw [findVariable?, hnone]

end Context

namespace Scope

/-- For any scope and any run of additions under names with or without `$`, a name is found with
the type that was added under it last, or as it was found before if nothing was added under it. Each
addition of the run puts one variable and leaves the other entries as they are. Two additions under
different names can be exchanged anywhere in the run. A context with the scope finds the same, but
for `this`, which is an instance of the class of the context if it has one. -/
theorem additions_make_a_map (s : Scope) (es : List (String × UnionType)) :
    (∀ name,
      (∀ before e after, es = before ++ e :: after → bare e.1 = bare name →
        (∀ f ∈ after, bare f.1 ≠ bare name) →
          (s.addAll es).find? name = some (.named e.1 e.2)) ∧
      ((∀ e ∈ es, bare e.1 ≠ bare name) → (s.addAll es).find? name = s.find? name)) ∧
    (∀ before e after, es = before ++ e :: after →
      Puts (.named e.1 e.2) (s.addAll before).entries (s.addAll (before ++ [e])).entries) ∧
    (∀ before e f after, es = before ++ e :: f :: after → bare e.1 ≠ bare f.1 → ∀ name,
      (s.addAll (before ++ f :: e :: after)).find? name = (s.addAll es).find? name) ∧
    ∀ ctx : Context, ctx.scope = s → ∀ name,
      (∀ c, ctx.enclosingClass = some c → bare name = "this" →
        (ctx.withVariables es).findVariable? name =
          some ⟨"this", UnionType.ofList [.instanceOf c]⟩) ∧
      (ctx.enclosingClass = none ∨ bare name ≠ "this" →
        (ctx.withVariables es).findVariable? name = (s.addAll es).find? name) := by
  refine ⟨fun name => ⟨?_, find?_addAll_absent⟩, ?_, ?_, ?_⟩
  · rintro before e after rfl hname hafter
    exact find?_addAll_last hname hafter
  · rintro before e after rfl
    rw [addAll_append]
    exact puts_replaceFirst (.named e.1 e.2) (s.addAll before).entries
  · rintro before e f after rfl hname name
    exact addAll_exchange hname name
  · rintro ctx rfl name
    rw [Context.withVariables_eq]
    refine ⟨fun c hclass hname => ?_, fun h => ?_⟩
    · exact Context.findVariable?_this hclass hname
    · exact Context.findVariable?_scope h

namespace Session

/-- A scope as a document may have it: `x` stands there with its `$`, and `y` stands there twice. -/
def scope : Scope :=
  ⟨[⟨"$x", UnionType.ofList [.native .int]⟩, ⟨"y", UnionType.ofList [.native .string]⟩,
    ⟨"y", UnionType.ofList [.native .bool]⟩, ⟨"z", UnionType.ofList [.native .string]⟩]⟩

def additions : List (String × UnionType) :=
  [("$x", UnionType.ofList [.native .float]), ("$$y", UnionType.ofList [.native .null]),
    ("x", UnionType.ofList [.native .array]), ("$this", UnionType.ofList [.native .int])]

/-- The first two additions the other way round. -/
def exchanged : List (String × UnionType) :=
  [("$$y", UnionType.ofList [.native .null]), ("$x", UnionType.ofList [.native .float]),
    ("x", UnionType.ofList [.native .array]), ("$this", UnionType.ofList [.native .int])]

def context : Context :=
  { Context.empty with scope := scope, enclosingClass := some (Name.ofText "Session") }

end Session

open Session in
/-- What was added as `$x` and then as `x` is found under both, and `z` as it was there before. The
type that was added for `this` does not matter within a class. -/
theorem additions_make_a_map_session :
    (scope.addAll additions).find? "$$x" = some ⟨"x", UnionType.ofList [.native .array]⟩ ∧
    (scope.addAll additions).find? "$y" = some ⟨"y", UnionType.ofList [.native .null]⟩ ∧
    (scope.addAll additions).find? "$z" = some ⟨"z", UnionType.ofList [.native .string]⟩ ∧
    (scope.addAll exchanged).find? "$y" = some ⟨"y", UnionType.ofList [.native .null]⟩ ∧
    (context.withVariables additions).findVariable? "$this" =
      some ⟨"this", UnionType.ofList [.instanceOf (Name.ofText "Session")]⟩ ∧
    (context.withVariables additions).findVariable? "$$x" =
      some ⟨"x", UnionType.ofList [.native .array]⟩ := by
  obtain ⟨hfound, _, hexchange, hcontext⟩ := additions_make_a_map scope additions
  have hx := (hfound "$$x").1 (additions.take 2) _ (additions.drop 3) rfl (by decide) (by decide)
  have hy := (hfound "$y").1 (additions.take 1) _ (additions.drop 2) rfl (by decide) (by decide)
  have hz := (hfound "$z").2 (by decide)
  have hother := hexchange [] _ _ (additions.drop 2) rfl (by decide) "$y"
  have hthis := (hcontext context rfl "$this").1 _ rfl (by decide)
  have hscope := (hcontext context rfl "$$x").2 (.inr (by decide))
  exact ⟨hx, hy, hz, hother.trans hy, hthis, hscope.trans hx⟩

end Scope

end GotoDefinition
