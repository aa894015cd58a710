import GotoDefinition.Proofs.Hierarchy.Reachable

/-!
# GotoDefinition.Proofs.Hierarchy.Interfaces

Interfaces come last.

A walk with interfaces goes through those of a class when it is done with the parent, so they come
after all that a walk without interfaces comes to. Only the interfaces of a trait could come sooner,
before the parent has had its turn; the theorems are about classes whose traits bring none along.

* `Collects.of_bare` — where no class lists interfaces the two walks are the same.
* `Collects.extend` — the walk with interfaces goes on where the one without ends.
* `Collects.withoutInterfaces` — a walk without interfaces is a walk where there are none.
* `interfaces_come_last` — what the chain of traits and parents declares is found as if there were
  no interfaces.
-/

namespace GotoDefinition

def ClassEntry.withoutInterfaces (e : ClassEntry) : ClassEntry :=
  { e with interfaces := [] }

namespace CodeBase

/-- The same classes, none of which lists an interface. -/
def withoutInterfaces (cb : CodeBase) : CodeBase :=
  { cb with classes := ⟨cb.classes.items.map ClassEntry.withoutInterfaces⟩ }

/-- No class that traits and parents lead to from here lists an interface. -/
def Bare (cb : CodeBase) (c : ClassName) : Prop :=
  ∀ f, cb.Reaches false c f → f.interfaces = []

/-- No class that traits and parents lead to by way of a trait lists an interface. -/
def BareTraits (cb : CodeBase) (c : ClassName) : Prop :=
  ∀ e, cb.Reaches false c e → ∀ t ∈ e.traits, cb.Bare t

variable {cb : CodeBase}

/-! ## Bases with and without interfaces -/

theorem bases_true (e : ClassEntry) : e.bases true = e.bases false ++ e.interfaces := by
  simp [ClassEntry.bases]

theorem bases_withoutInterfaces (e : ClassEntry) :
    e.withoutInterfaces.bases true = e.bases false := by
  simp [ClassEntry.bases, ClassEntry.withoutInterfaces]

theorem findClass?_withoutInterfaces (cb : CodeBase) (c : ClassName) :
    cb.withoutInterfaces.findClass? c = (cb.findClass? c).map ClassEntry.withoutInterfaces :=
  List.find?_map ..

theorem Bare.below {c d : ClassName} {e : ClassEntry} (h : cb.Bare c)
    (hfind : cb.findClass? c = some e) (hd : d ∈ e.bases false) : cb.Bare d :=
  fun f hf => h f (reaches_below hfind hd hf)

theorem BareTraits.below {c d : ClassName} {e : ClassEntry} (h : cb.BareTraits c)
    (hfind : cb.findClass? c = some e) (hd : d ∈ e.bases false) : cb.BareTraits d :=
  fun f hf => h f (reaches_below hfind hd hf)

/-- Of the bases of a class at most the last, the parent, brings interfaces along. -/
theorem BareTraits.pairwise {c : ClassName} {e : ClassEntry} (h : cb.BareTraits c)
    (hfind : cb.findClass? c = some e) : (e.bases false).Pairwise fun d _ => cb.Bare d := by
  have htraits : ∀ t ∈ e.traits, cb.Bare t := h e (reaches_self hfind)
  rw [ClassEntry.bases, if_neg Bool.false_ne_true, List.append_nil, List.pairwise_append]
  refine ⟨?_, ?_, fun t ht _ _ => htraits t ht⟩
  · exact List.pairwise_of_forall_mem_list fun t ht _ _ => htraits t ht
  · cases e.parent with
    | none => exact .nil
    | some p => exact List.pairwise_singleton ..

/-- Traits name traits alone, and a trait has no parent and lists no interface: so the language has
it, and it makes the traits of every class bare. -/
theorem bareTraits_of_kinds {c : ClassName}
    (h : ∀ e ∈ cb.classes.items, (∀ t ∈ e.traits, ∀ f ∈ cb.findClass? t, f.kind = .trait) ∧
      (e.kind = .trait → e.parent = none ∧ e.interfaces = [])) : cb.BareTraits c := by
  rintro e hreach t ht g ⟨root, hroot, hpath⟩
  have hkind : g.kind = .trait := by
    induction hpath with
    | refl => exact (h e (Index.mem_of_find? hreach.indexed)).1 t ht root hroot
    | tail hpath hstep ih =>
      obtain ⟨d, hrefers, hfind⟩ := hstep
      have hmid := Index.mem_of_find? (Reaches.indexed ⟨root, hroot, hpath⟩)
      cases hrefers with
      | trait hd => exact (h _ hmid).1 d hd _ hfind
      | parent hd =>
        rw [((h _ hmid).2 ih).1] at hd
        cases hd
      | interface hcount _ => cases hcount
  have hmem := Index.mem_of_find? (Reaches.indexed ⟨root, hroot, hpath⟩)
  exact ((h g hmem).2 hkind).2

namespace Collects

/-! ## Walks with and without interfaces -/

theorem of_bare {met after : List String} {cs : List ClassName} {es : List ClassEntry}
    (h : Collects cb false met cs after es) (hbare : ∀ c ∈ cs, cb.Bare c) :
    Collects cb true met cs after es := by
  induction h with
  | done => exact .done
  | again hmet _ ih => exact .again hmet (ih fun c hc => hbare c (List.mem_cons_of_mem _ hc))
  | unknown hmet hfind _ ih =>
    exact .unknown hmet hfind (ih fun c hc => hbare c (List.mem_cons_of_mem _ hc))
  | @enter _ _ _ c _ e _ _ hmet hfind _ _ ihBelow ihBeside =>
    have hc : cb.Bare c := hbare c List.mem_cons_self
    have hbases : e.bases true = e.bases false := by
      rw [bases_true, hc e (reaches_self hfind), List.append_nil]
    refine .enter hmet hfind ?_ (ihBeside fun d hd => hbare d (List.mem_cons_of_mem _ hd))
    rw [hbases]
    exact ihBelow fun d hd => hc.below hfind hd

/-- By induction on the run without interfaces. A class that has others beside it is bare, so that
nothing is put between what it leads to and what they lead to. -/
theorem extend {met after : List String} {cs : List ClassName} {es : List ClassEntry}
    (h : Collects cb false met cs after es) (htraits : ∀ c ∈ cs, cb.BareTraits c)
    (hbare : cs.Pairwise fun c _ => cb.Bare c) :
    ∃ after' more, Collects cb true met cs after' (es ++ more) := by
  induction h with
  | @done met => exact ⟨met, [], .done⟩
  | again hmet _ ih =>
    obtain ⟨after', more, hrun⟩ :=
      ih (fun c hc => htraits c (List.mem_cons_of_mem _ hc)) hbare.of_cons
    exact ⟨after', more, .again hmet hrun⟩
  | unknown hmet hfind _ ih =>
    obtain ⟨after', more, hrun⟩ :=
      ih (fun c hc => htraits c (List.mem_cons_of_mem _ hc)) hbare.of_cons
    exact ⟨after', more, .unknown hmet hfind hrun⟩
  | @enter met mid _ c cs e es _ hmet hfind below beside ihBelow ihBeside =>
    have hc : cb.BareTraits c := htraits c List.mem_cons_self
    cases cs with
    | nil =>
      cases beside
      obtain ⟨mid', more, hbases⟩ :=
        ihBelow (fun d hd => hc.below hfind hd) (hc.pairwise hfind)
      obtain ⟨after', hinterfaces⟩ :
          ∃ after', Collects cb true mid' e.interfaces after' (cb.walk true mid' e.interfaces) :=
        collects_walk mid' e.interfaces mid' fun _ _ _ => Iff.rfl
      have hbelow := hbases.append hinterfaces
      rw [← bases_true] at hbelow
      have hrun := Collects.enter hmet hfind hbelow .done
      simp only [List.append_assoc, List.append_nil, List.cons_append] at hrun ⊢
      exact ⟨after', _, hrun⟩
    | cons d ds =>
      have hcBare : cb.Bare c := List.rel_of_pairwise_cons hbare List.mem_cons_self
      obtain ⟨after', more, hrun⟩ :=
        ihBeside (fun d hd => htraits d (List.mem_cons_of_mem _ hd)) hbare.of_cons
      have hbases : Collects cb true (c.key :: met) (e.bases true) mid es := by
        rw [bases_true, hcBare e (reaches_self hfind), List.append_nil]
        exact below.of_bare fun d hd => hcBare.below hfind hd
      refine ⟨after', more, ?_⟩
      rw [List.append_assoc]
      exact .enter hmet hfind hbases hrun

theorem withoutInterfaces {met after : List String} {cs : List ClassName} {es : List ClassEntry}
    (h : Collects cb false met cs after es) :
    Collects cb.withoutInterfaces true met cs after (es.map ClassEntry.withoutInterfaces) := by
  induction h with
  | done => exact .done
  | again hmet _ ih => exact .again hmet ih
  | unknown hmet hfind _ ih =>
    refine .unknown hmet ?_ ih
    rw [findClass?_withoutInterfaces, hfind, Option.map_none]
  | @enter _ _ _ _ _ e _ _ hmet hfind _ _ ihBelow ihBeside =>
    rw [← bases_withoutInterfaces] at ihBelow
    rw [List.map_append, List.map_cons]
    refine .enter hmet ?_ ihBelow ihBeside
    rw [findClass?_withoutInterfaces, hfind, Option.map_some]

end Collects

/-! ## Lineages -/

theorem lineage_withoutInterfaces (cb : CodeBase) (c : ClassName) :
    cb.withoutInterfaces.lineage true c =
      (cb.lineage false c).map ClassEntry.withoutInterfaces := by
  obtain ⟨_, hall⟩ := collects_lineage cb.withoutInterfaces true c
  obtain ⟨_, hconcrete⟩ := collects_lineage cb false c
  exact (hall.unique hconcrete.withoutInterfaces).2

/-- Members that do not depend on the listed interfaces are found without them by leaving the
interfaces out, in the search or in the hierarchy. -/
theorem findMember?_withoutInterfaces {α : Type} {pick : ClassEntry → Option α}
    (hpick : ∀ f : ClassEntry, pick f.withoutInterfaces = pick f) (c : ClassName) :
    cb.withoutInterfaces.findMember? true c pick = cb.findMember? false c pick := by
  rw [CodeBase.findMember?, CodeBase.findMember?, lineage_withoutInterfaces, List.findSome?_map,
    show pick ∘ ClassEntry.withoutInterfaces = pick from funext hpick]

theorem BareTraits.isPrefix {c : ClassName} (h : cb.BareTraits c) :
    cb.lineage false c <+: cb.lineage true c := by
  obtain ⟨_, hconcrete⟩ := collects_lineage cb false c
  obtain ⟨_, hall⟩ := collects_lineage cb true c
  have hstart : ∀ d ∈ [c], cb.BareTraits d := by
    intro d hd
    rw [List.mem_singleton.mp hd]
    exact h
  obtain ⟨_, more, hrun⟩ := hconcrete.extend hstart (List.pairwise_singleton ..)
  exact ⟨more, (hrun.unique hall).2⟩

/-- A member that traits and parents lead to is found with and without interfaces alike, whenever
having it does not depend on the interfaces that an entry lists. -/
theorem BareTraits.findMember? {α : Type} {c : ClassName} {e : ClassEntry}
    {pick : ClassEntry → Option α} (h : cb.BareTraits c)
    (hpick : ∀ f : ClassEntry, pick f.withoutInterfaces = pick f) (hreach : cb.Reaches false c e)
    (hhas : (pick e).isSome = true) :
    ∃ a, cb.findMember? true c pick = some a ∧
      cb.withoutInterfaces.findMember? true c pick = some a := by
  have hfound : ((cb.lineage false c).findSome? pick).isSome = true := by
    rw [List.findSome?_isSome_iff]
    exact ⟨e, mem_lineage_iff.mpr hreach, hhas⟩
  obtain ⟨a, ha⟩ := Option.isSome_iff_exists.mp hfound
  refine ⟨a, h.isPrefix.findSome?_eq_some ha, ?_⟩
  rw [findMember?_withoutInterfaces hpick]
  exact ha

/-- Where traits bring no interfaces along, those of a class come after everything that its traits
and parents lead to, and a method or constant declared there is the one that would be found if no
class listed an interface. -/
theorem interfaces_come_last {c : ClassName} (h : cb.BareTraits c) :
    cb.lineage false c <+: cb.lineage true c ∧
      (∀ name e, cb.Reaches false c e → (∃ m ∈ e.methods, Text.alike m.name name = true) →
        ∃ d, cb.findMethod? c name = some d ∧
          cb.withoutInterfaces.findMethod? c name = some d) ∧
      ∀ name e, cb.Reaches false c e → (∃ k ∈ e.constants, k.name = name) →
        ∃ d, cb.findClassConstant? c name = some d ∧
          cb.withoutInterfaces.findClassConstant? c name = some d := by
  refine ⟨h.isPrefix, ?_, ?_⟩
  · rintro name e hreach ⟨m, hm, hname⟩
    refine h.findMember? (fun _ => rfl) hreach ?_
    rw [ClassEntry.findMethod?, Option.isSome_map, List.find?_isSome]
    exact ⟨m, hm, hname⟩
  · rintro name e hreach ⟨k, hk, hname⟩
    refine h.findMember? (fun _ => rfl) hreach ?_
    rw [ClassEntry.findConstant?, Option.isSome_map, List.find?_isSome]
    exact ⟨k, hk, by simpa using hname⟩

namespace Diamond

def user : ClassEntry :=
  sampleEntry "User" .ordinary 50 (some "Model") ["Arrayable"] ["Stamped", "Audited"] []

def model : ClassEntry := sampleEntry "Model" .ordinary 40 none ["Arrayable"] ["Clock"] ["toArray"]

def stamped : ClassEntry := sampleEntry "Stamped" .trait 30 none [] ["Clock"] []

def audited : ClassEntry := sampleEntry "Audited" .trait 20 none [] ["Clock"] []

def clock : ClassEntry := sampleEntry "Clock" .trait 10 none [] [] ["now"]

def arrayable : ClassEntry := sampleEntry "Arrayable" .interface 0 none [] [] ["toArray"]

/-- Three ways lead from `User` to `Clock`, and two to `Arrayable`. -/
def codeBase : CodeBase :=
  ofSnapshot ⟨[user, model, stamped, audited, clock, arrayable], [], []⟩

end Diamond

/-- The `toArray` of `User` is the one of `Model`, although `User` lists `Arrayable` itself. -/
theorem interfaces_come_last_diamond :
    Diamond.codeBase.BareTraits Diamond.user.name ∧
      Diamond.codeBase.Reaches false Diamond.user.name Diamond.model ∧
      (∃ m ∈ Diamond.model.methods, Text.alike m.name "TOARRAY" = true) ∧
      Diamond.codeBase.lineage false Diamond.user.name <+:
        Diamond.codeBase.lineage true Diamond.user.name ∧
      ∃ d, Diamond.codeBase.findMethod? Diamond.user.name "TOARRAY" = some d ∧
        Diamond.codeBase.withoutInterfaces.findMethod? Diamond.user.name "TOARRAY" = some d := by
  have hbare : Diamond.codeBase.BareTraits Diamond.user.name :=
    bareTraits_of_kinds (by decide +kernel)
  have huser : Diamond.codeBase.findClass? Diamond.user.name = some Diamond.user := by
    decide +kernel
  have hmodel : Diamond.codeBase.findClass? (Name.ofText "Model") = some Diamond.model := by
    decide +kernel
  have hparent : Name.ofText "Model" ∈ Diamond.user.bases false := by decide +kernel
  have hreach : Diamond.codeBase.Reaches false Diamond.user.name Diamond.model :=
    reaches_below huser hparent (reaches_self hmodel)
  have hdeclares : ∃ m ∈ Diamond.model.methods, Text.alike m.name "TOARRAY" = true := by
    decide +kernel
  obtain ⟨hlineage, hmethods, -⟩ := interfaces_come_last hbare
  exact ⟨hbare, hreach, hdeclares, hlineage, hmethods "TOARRAY" Diamond.model hreach hdeclares⟩

end CodeBase

end GotoDefinition
