import GotoDefinition.CodeBase.Lineage

/-!
# GotoDefinition.Proofs.Hierarchy.Collects

The walk through a hierarchy as a recursive procedure.

`CodeBase.walk` works off one list of pending classes. `Collects` gives the rules of the recursion
behind it: a class that is entered goes through its bases before the classes beside it have their
turn, and every name that was met, in the index or not, is handed on to what comes later.

* `Collects.unique` — a run has one outcome.
* `collects_walk` — the entries of the walk are the outcome of a run, so every run ends.
* `collects_lineage_iff` — the same from the start, where no name has been met.
* `lineage_transfer` — the lineage depends on nothing but the entries of the names it looks up.
-/

namespace GotoDefinition

namespace CodeBase

/-- A run through a list of classes: the names met before it, those met after it, and the entries
that it comes to. -/
inductive Collects (cb : CodeBase) (withInterfaces : Bool) :
    List String → List ClassName → List String → List ClassEntry → Prop where
  | done {met : List String} : Collects cb withInterfaces met [] met []
  | again {met after : List String} {c : ClassName} {cs : List ClassName} {es : List ClassEntry}
      (hmet : c.key ∈ met) (beside : Collects cb withInterfaces met cs after es) :
      Collects cb withInterfaces met (c :: cs) after es
  | unknown {met after : List String} {c : ClassName} {cs : List ClassName} {es : List ClassEntry}
      (hmet : c.key ∉ met) (hfind : cb.findClass? c = none)
      (beside : Collects cb withInterfaces (c.key :: met) cs after es) :
      Collects cb withInterfaces met (c :: cs) after es
  | enter {met mid after : List String} {c : ClassName} {cs : List ClassName} {e : ClassEntry}
      {es fs : List ClassEntry} (hmet : c.key ∉ met) (hfind : cb.findClass? c = some e)
      (below : Collects cb withInterfaces (c.key :: met) (e.bases withInterfaces) mid es)
      (beside : Collects cb withInterfaces mid cs after fs) :
      Collects cb withInterfaces met (c :: cs) after (e :: es ++ fs)

variable {cb : CodeBase} {b : Bool}

namespace Collects

/-! ## One outcome -/

theorem unique {met after₁ after₂ : List String} {cs : List ClassName} {es₁ es₂ : List ClassEntry}
    (h₁ : Collects cb b met cs after₁ es₁) (h₂ : Collects cb b met cs after₂ es₂) :
    after₁ = after₂ ∧ es₁ = es₂ := by
  induction h₁ generalizing after₂ es₂ with
  | done =>
    cases h₂
    exact ⟨rfl, rfl⟩
  | again hmet _ ih =>
    cases h₂ with
    | again _ beside => exact ih beside
    | unknown hmet' _ _ => exact absurd hmet hmet'
    | enter hmet' _ _ _ => exact absurd hmet hmet'
  | unknown hmet hfind _ ih =>
    cases h₂ with
    | again hmet' _ => exact absurd hmet' hmet
    | unknown _ _ beside => exact ih beside
    | enter _ hfind' _ _ =>
      rw [hfind] at hfind'
      cases hfind'
  | enter hmet hfind _ _ ihBelow ihBeside =>
    cases h₂ with
    | again hmet' _ => exact absurd hmet' hmet
    | unknown _ hfind' _ =>
      rw [hfind] at hfind'
      cases hfind'
    | enter _ hfind' below beside =>
      rw [hfind] at hfind'
      cases hfind'
      obtain ⟨rfl, rfl⟩ := ihBelow below
      obtain ⟨rfl, rfl⟩ := ihBeside beside
      exact ⟨rfl, rfl⟩

/-! ## Runs one after the other -/

theorem append {met mid after : List String} {cs ds : List ClassName} {es fs : List ClassEntry}
    (h₁ : Collects cb b met cs mid es) (h₂ : Collects cb b mid ds after fs) :
    Collects cb b met (cs ++ ds) after (es ++ fs) := by
  induction h₁ with
  | done => exact h₂
  | again hmet _ ih => exact .again hmet (ih h₂)
  | unknown hmet hfind _ ih => exact .unknown hmet hfind (ih h₂)
  | enter hmet hfind below _ _ ih =>
    rw [List.append_assoc]
    exact .enter hmet hfind below (ih h₂)

theorem split {after : List String} {cs ds : List ClassName} {es : List ClassEntry} :
    ∀ {met : List String}, Collects cb b met (cs ++ ds) after es →
      ∃ mid es₁ es₂, Collects cb b met cs mid es₁ ∧ Collects cb b mid ds after es₂ ∧
        es = es₁ ++ es₂ := by
  induction cs generalizing es with
  | nil =>
    intro met h
    exact ⟨met, [], es, .done, h, rfl⟩
  | cons c cs ih =>
    intro met h
    cases h with
    | again hmet beside =>
      obtain ⟨mid, es₁, es₂, h₁, h₂, rfl⟩ := ih beside
      exact ⟨mid, es₁, es₂, .again hmet h₁, h₂, rfl⟩
    | unknown hmet hfind beside =>
      obtain ⟨mid, es₁, es₂, h₁, h₂, rfl⟩ := ih beside
      exact ⟨mid, es₁, es₂, .unknown hmet hfind h₁, h₂, rfl⟩
    | @enter _ _ _ _ _ e es' _ hmet hfind below beside =>
      obtain ⟨mid, es₁, es₂, h₁, h₂, rfl⟩ := ih beside
      refine ⟨mid, e :: es' ++ es₁, es₂, .enter hmet hfind below h₁, h₂, ?_⟩
      simp

end Collects

/-! ## Runs in two code bases -/

/-- A run looks up the classes it starts with and the bases of the entries it comes to. -/
theorem Collects.transfer {other : CodeBase} {met after : List String} {cs : List ClassName}
    {es : List ClassEntry} (h : Collects cb b met cs after es)
    (hstart : ∀ c ∈ cs, cb.findClass? c = other.findClass? c)
    (hbelow : ∀ e ∈ es, ∀ c ∈ e.bases b, cb.findClass? c = other.findClass? c) :
    Collects other b met cs after es := by
  induction h with
  | done => exact .done
  | again hmet _ ih =>
    exact .again hmet (ih (fun c hc => hstart c (List.mem_cons_of_mem _ hc)) hbelow)
  | unknown hmet hfind _ ih =>
    refine .unknown hmet ((hstart _ List.mem_cons_self).symm.trans hfind) ?_
    exact ih (fun c hc => hstart c (List.mem_cons_of_mem _ hc)) hbelow
  | @enter _ _ _ _ _ e es fs hmet hfind _ _ ihBelow ihBeside =>
    refine .enter hmet ((hstart _ List.mem_cons_self).symm.trans hfind)
      (ihBelow ?_ ?_) (ihBeside ?_ ?_)
    · exact hbelow e List.mem_cons_self
    · exact fun f hf => hbelow f (List.mem_cons_of_mem _ (List.mem_append_left _ hf))
    · exact fun c hc => hstart c (List.mem_cons_of_mem _ hc)
    · exact fun f hf => hbelow f (List.mem_cons_of_mem _ (List.mem_append_right _ hf))

/-! ## The walk -/

/-- Lists of names that agree on the classes in the index. The walk notes no other names. -/
def MetAlike (cb : CodeBase) (names met : List String) : Prop :=
  ∀ c e, cb.findClass? c = some e → (c.key ∈ names ↔ c.key ∈ met)

/-- A class that is not entered is passed over, whether it was met or is not in the index. -/
theorem collects_skip {names met : List String} {c : ClassName} {cs : List ClassName}
    {es : List ClassEntry} (halike : cb.MetAlike names met)
    (hskip : c.key ∈ met ∨ cb.findClass? c = none)
    (ih : ∀ names, cb.MetAlike names met → ∃ after, Collects cb b names cs after es) :
    ∃ after, Collects cb b names (c :: cs) after es := by
  by_cases hmet : c.key ∈ names
  · obtain ⟨after, h⟩ := ih names halike
    exact ⟨after, .again hmet h⟩
  · have hfind : cb.findClass? c = none := by
      rcases hskip with hmet' | hfind
      · cases hfind : cb.findClass? c with
        | none => rfl
        | some e => exact absurd ((halike c e hfind).mpr hmet') hmet
      · exact hfind
    have halike' : cb.MetAlike (c.key :: names) met := by
      intro d e hd
      have hne : d.key ≠ c.key := by
        intro h
        rw [findClass?_congr h, hfind] at hd
        cases hd
      rw [List.mem_cons, ← halike d e hd]
      exact or_iff_right hne
    obtain ⟨after, h⟩ := ih _ halike'
    exact ⟨after, .unknown hmet hfind h⟩

theorem collects_walk (met : List String) (pending : List ClassName) :
    ∀ names, cb.MetAlike names met →
      ∃ after, Collects cb b names pending after (cb.walk b met pending) := by
  induction met, pending using walk.induct cb b with
  | case1 met =>
    intro names _
    rw [walk]
    exact ⟨names, .done⟩
  | case2 met c pending hmet ih =>
    intro names halike
    rw [walk_again hmet]
    exact collects_skip halike (.inl (List.contains_iff_mem.mp hmet)) ih
  | case3 met c pending hmet hfind ih =>
    intro names halike
    rw [walk_unknown hmet hfind]
    exact collects_skip halike (.inr hfind) ih
  | case4 met c pending hmet e hfind ih =>
    intro names halike
    rw [walk_enter hmet hfind]
    have hmet' : c.key ∉ names := by
      rw [halike c e hfind]
      simpa using hmet
    have halike' : cb.MetAlike (c.key :: names) (c.key :: met) := by
      intro d f hd
      rw [List.mem_cons, List.mem_cons, halike d f hd]
    obtain ⟨after, h⟩ := ih _ halike'
    obtain ⟨mid, es, fs, below, beside, heq⟩ := h.split
    rw [heq]
    exact ⟨after, .enter hmet' hfind below beside⟩

theorem collects_lineage (cb : CodeBase) (b : Bool) (c : ClassName) :
    ∃ after, Collects cb b [] [c] after (cb.lineage b c) :=
  collects_walk [] [c] [] fun _ _ _ => Iff.rfl

/-- From the start there is exactly one run, and the lineage is what it comes to. -/
theorem collects_lineage_iff (cb : CodeBase) (b : Bool) (c : ClassName) :
    ∃ met, ∀ after es, Collects cb b [] [c] after es ↔ after = met ∧ es = cb.lineage b c := by
  obtain ⟨met, h⟩ := collects_lineage cb b c
  refine ⟨met, fun after es => ⟨fun h' => h'.unique h, ?_⟩⟩
  rintro ⟨rfl, rfl⟩
  exact h

theorem lineage_transfer {other : CodeBase} {c : ClassName}
    (hstart : cb.findClass? c = other.findClass? c)
    (hbelow : ∀ e ∈ cb.lineage b c, ∀ d ∈ e.bases b, cb.findClass? d = other.findClass? d) :
    cb.lineage b c = other.lineage b c := by
  obtain ⟨_, h⟩ := collects_lineage cb b c
  obtain ⟨_, hother⟩ := collects_lineage other b c
  have htransfer := h.transfer (List.forall_mem_singleton.mpr hstart) hbelow
  exact (htransfer.unique hother).2

end CodeBase

end GotoDefinition
