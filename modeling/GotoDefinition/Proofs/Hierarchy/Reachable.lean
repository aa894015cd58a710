import GotoDefinition.Proofs.Hierarchy.Collects
import Mathlib.Logic.Relation

/-!
# GotoDefinition.Proofs.Hierarchy.Reachable

The lineage of a class as the part of the hierarchy that can be reached from it.

* `ClassEntry.Refers` — what leads from one class to the next.
* `Collects.fresh`, `Collects.distinct` — a run comes to every class at most once.
* `Collects.reached` — what a run comes to can be reached from the classes it started with.
* `Collects.closed` — the bases of what a run has met have been met when it ends.
* `lineage_eq_reachable` — the lineage holds exactly what can be reached, on cyclic hierarchies too.
-/

namespace GotoDefinition

/-- The classes that an entry refers to. Interfaces count only where they are asked for. -/
inductive ClassEntry.Refers (e : ClassEntry) (withInterfaces : Bool) : ClassName → Prop where
  | trait {c : ClassName} (h : c ∈ e.traits) : Refers e withInterfaces c
  | parent {c : ClassName} (h : e.parent = some c) : Refers e withInterfaces c
  | interface {c : ClassName} (hcount : withInterfaces = true) (h : c ∈ e.interfaces) :
      Refers e withInterfaces c

theorem ClassEntry.Refers.withInterfaces {e : ClassEntry} {b : Bool} {c : ClassName}
    (h : e.Refers b c) : e.Refers true c := by
  cases h with
  | trait h => exact .trait h
  | parent h => exact .parent h
  | interface _ h => exact .interface rfl h

/-- The walk goes on with exactly these classes. -/
theorem ClassEntry.mem_bases_iff {e : ClassEntry} {withInterfaces : Bool} {c : ClassName} :
    c ∈ e.bases withInterfaces ↔ e.Refers withInterfaces c := by
  rw [bases, List.mem_append, List.mem_append, Option.mem_toList]
  constructor
  · rintro ((h | h) | h)
    · exact .trait h
    · exact .parent h
    · split at h
      · rename_i hcount
        exact .interface hcount h
      · cases h
  · rintro (h | h | ⟨hcount, h⟩)
    · exact .inl (.inl h)
    · exact .inl (.inr h)
    · rw [if_pos hcount]
      exact .inr h

namespace CodeBase

/-- The class that the entry refers to is in the index, with the other entry. -/
def Extends (cb : CodeBase) (withInterfaces : Bool) (e f : ClassEntry) : Prop :=
  ∃ c, e.Refers withInterfaces c ∧ cb.findClass? c = some f

/-- The entry can be reached from the class along references out of indexed classes. -/
def Reaches (cb : CodeBase) (withInterfaces : Bool) (c : ClassName) (f : ClassEntry) : Prop :=
  ∃ e, cb.findClass? c = some e ∧ Relation.ReflTransGen (cb.Extends withInterfaces) e f

variable {cb : CodeBase} {b : Bool}

/-! ## Reaching -/

theorem reaches_self {c : ClassName} {e : ClassEntry} (h : cb.findClass? c = some e) :
    cb.Reaches b c e :=
  ⟨e, h, .refl⟩

theorem reaches_below {c d : ClassName} {e f : ClassEntry} (hfind : cb.findClass? c = some e)
    (hd : d ∈ e.bases b) (h : cb.Reaches b d f) : cb.Reaches b c f := by
  obtain ⟨g, hg, hpath⟩ := h
  exact ⟨e, hfind, hpath.head ⟨d, ClassEntry.mem_bases_iff.mp hd, hg⟩⟩

/-- What is reached is in the index. -/
theorem Reaches.indexed {c : ClassName} {f : ClassEntry} (h : cb.Reaches b c f) :
    cb.findClass? f.name = some f := by
  obtain ⟨e, he, hpath⟩ := h
  induction hpath with
  | refl => exact findClass?_name he
  | tail _ hstep _ =>
    obtain ⟨d, _, hd⟩ := hstep
    exact findClass?_name hd

namespace Collects

/-! ## Every class once -/

theorem met_subset {met after : List String} {cs : List ClassName} {es : List ClassEntry}
    (h : Collects cb b met cs after es) : ∀ k ∈ met, k ∈ after := by
  induction h with
  | done => exact fun _ hk => hk
  | again _ _ ih => exact ih
  | unknown _ _ _ ih => exact fun k hk => ih k (List.mem_cons_of_mem _ hk)
  | enter _ _ _ _ ihBelow ihBeside =>
    exact fun k hk => ihBeside k (ihBelow k (List.mem_cons_of_mem _ hk))

/-- What a run comes to was not met before it and has been met after it. -/
theorem fresh {met after : List String} {cs : List ClassName} {es : List ClassEntry}
    (h : Collects cb b met cs after es) :
    ∀ e ∈ es, e.name.key ∉ met ∧ e.name.key ∈ after := by
  induction h with
  | done =>
    intro e he
    cases he
  | again _ _ ih => exact ih
  | unknown _ _ _ ih =>
    intro e he
    obtain ⟨hmet, hafter⟩ := ih e he
    exact ⟨fun hk => hmet (List.mem_cons_of_mem _ hk), hafter⟩
  | enter hmet hfind below beside ihBelow ihBeside =>
    intro e he
    rcases List.mem_cons.mp he with rfl | he
    · rw [key_of_findClass? hfind]
      exact ⟨hmet, beside.met_subset _ (below.met_subset _ List.mem_cons_self)⟩
    · rcases List.mem_append.mp he with he | he
      · obtain ⟨hmet', hmid⟩ := ihBelow e he
        exact ⟨fun hk => hmet' (List.mem_cons_of_mem _ hk), beside.met_subset _ hmid⟩
      · obtain ⟨hmid, hafter⟩ := ihBeside e he
        refine ⟨fun hk => hmid ?_, hafter⟩
        exact below.met_subset _ (List.mem_cons_of_mem _ hk)

theorem distinct {met after : List String} {cs : List ClassName} {es : List ClassEntry}
    (h : Collects cb b met cs after es) : es.Pairwise fun e f => e.name.key ≠ f.name.key := by
  induction h with
  | done => exact .nil
  | again _ _ ih => exact ih
  | unknown _ _ _ ih => exact ih
  | @enter _ mid _ c _ e es fs hmet hfind below beside ihBelow ihBeside =>
    have hbelow : ∀ f ∈ es, e.name.key ≠ f.name.key := by
      intro f hf heq
      apply (below.fresh f hf).1
      rw [← heq, key_of_findClass? hfind]
      exact List.mem_cons_self
    have hbeside : ∀ f ∈ fs, f.name.key ∉ mid := fun f hf => (beside.fresh f hf).1
    have hmid : c.key ∈ mid := below.met_subset _ List.mem_cons_self
    rw [List.cons_append, List.pairwise_cons, List.pairwise_append]
    refine ⟨?_, ihBelow, ihBeside, ?_⟩
    · intro f hf
      rcases List.mem_append.mp hf with hf | hf
      · exact hbelow f hf
      · intro heq
        apply hbeside f hf
        rw [← heq, key_of_findClass? hfind]
        exact hmid
    · intro f hf g hg heq
      apply hbeside g hg
      rw [← heq]
      exact (below.fresh f hf).2

/-! ## What a run comes to -/

theorem reached {met after : List String} {cs : List ClassName} {es : List ClassEntry}
    (h : Collects cb b met cs after es) : ∀ e ∈ es, ∃ c ∈ cs, cb.Reaches b c e := by
  induction h with
  | done =>
    intro e he
    cases he
  | again _ _ ih =>
    intro e he
    obtain ⟨c, hc, h⟩ := ih e he
    exact ⟨c, List.mem_cons_of_mem _ hc, h⟩
  | unknown _ _ _ ih =>
    intro e he
    obtain ⟨c, hc, h⟩ := ih e he
    exact ⟨c, List.mem_cons_of_mem _ hc, h⟩
  | @enter _ _ _ c _ _ _ _ _ hfind _ _ ihBelow ihBeside =>
    intro e he
    rcases List.mem_cons.mp he with rfl | he
    · exact ⟨c, List.mem_cons_self, reaches_self hfind⟩
    · rcases List.mem_append.mp he with he | he
      · obtain ⟨d, hd, h⟩ := ihBelow e he
        exact ⟨c, List.mem_cons_self, reaches_below hfind hd h⟩
      · obtain ⟨d, hd, h⟩ := ihBeside e he
        exact ⟨d, List.mem_cons_of_mem _ hd, h⟩

theorem pending_met {met after : List String} {cs : List ClassName} {es : List ClassEntry}
    (h : Collects cb b met cs after es) : ∀ c ∈ cs, c.key ∈ after := by
  induction h with
  | done =>
    intro c hc
    cases hc
  | again hmet beside ih =>
    intro c hc
    rcases List.mem_cons.mp hc with rfl | hc
    · exact beside.met_subset _ hmet
    · exact ih c hc
  | unknown _ _ beside ih =>
    intro c hc
    rcases List.mem_cons.mp hc with rfl | hc
    · exact beside.met_subset _ List.mem_cons_self
    · exact ih c hc
  | enter _ _ below beside _ ih =>
    intro c hc
    rcases List.mem_cons.mp hc with rfl | hc
    · exact beside.met_subset _ (below.met_subset _ List.mem_cons_self)
    · exact ih c hc

/-- A class that was first met during the run is among its entries, and its bases have been met.
A base that was skipped because it had been met is no exception: it is in the list all the same. -/
theorem closed {met after : List String} {cs : List ClassName} {es : List ClassEntry}
    (h : Collects cb b met cs after es) :
    ∀ c e, cb.findClass? c = some e → c.key ∈ after → c.key ∉ met →
      e ∈ es ∧ ∀ d ∈ e.bases b, d.key ∈ after := by
  induction h with
  | done =>
    intro c e _ hafter hmet
    exact absurd hafter hmet
  | again _ _ ih => exact ih
  | @unknown _ _ u _ _ _ hfind _ ih =>
    intro c e he hafter hmet
    apply ih c e he hafter
    intro hk
    rcases List.mem_cons.mp hk with hk | hk
    · rw [findClass?_congr hk, hfind] at he
      cases he
    · exact hmet hk
  | @enter _ mid _ r _ root es fs _ hfind below beside ihBelow ihBeside =>
    intro c e he hafter hmet
    by_cases hmid : c.key ∈ mid
    · by_cases hroot : c.key = r.key
      · rw [findClass?_congr hroot, hfind] at he
        cases he
        refine ⟨List.mem_cons_self, fun d hd => ?_⟩
        exact beside.met_subset _ (below.pending_met d hd)
      · have hmet' : c.key ∉ r.key :: _ := fun hk =>
          (List.mem_cons.mp hk).elim hroot hmet
        obtain ⟨hes, hbases⟩ := ihBelow c e he hmid hmet'
        refine ⟨?_, fun d hd => beside.met_subset _ (hbases d hd)⟩
        exact List.mem_cons_of_mem _ (List.mem_append_left _ hes)
    · obtain ⟨hfs, hbases⟩ := ihBeside c e he hafter hmid
      exact ⟨List.mem_cons_of_mem _ (List.mem_append_right _ hfs), hbases⟩

/-- A run from the start comes to everything that can be reached. -/
theorem complete {after : List String} {c : ClassName} {es : List ClassEntry} {f : ClassEntry}
    (h : Collects cb b [] [c] after es) (hreach : cb.Reaches b c f) : f ∈ es := by
  have hclosed : ∀ e, cb.findClass? e.name = some e → e.name.key ∈ after →
      e ∈ es ∧ ∀ d ∈ e.bases b, d.key ∈ after :=
    fun e he hafter => h.closed e.name e he hafter List.not_mem_nil
  have hmet : f.name.key ∈ after := by
    obtain ⟨e, he, hpath⟩ := hreach
    induction hpath with
    | refl =>
      rw [key_of_findClass? he]
      exact h.pending_met c List.mem_cons_self
    | tail hpath hstep ih =>
      obtain ⟨d, hd, hfind⟩ := hstep
      rw [key_of_findClass? hfind]
      have hbases := (hclosed _ (Reaches.indexed ⟨e, he, hpath⟩) ih).2
      exact hbases d (ClassEntry.mem_bases_iff.mpr hd)
  exact (hclosed f hreach.indexed hmet).1

end Collects

/-! ## The lineage -/

theorem mem_lineage_iff {c : ClassName} {f : ClassEntry} :
    f ∈ cb.lineage b c ↔ cb.Reaches b c f := by
  obtain ⟨after, h⟩ := collects_lineage cb b c
  constructor
  · intro hf
    obtain ⟨d, hd, hreach⟩ := h.reached f hf
    rw [List.mem_singleton] at hd
    subst hd
    exact hreach
  · exact h.complete

theorem head?_lineage (cb : CodeBase) (b : Bool) (c : ClassName) :
    (cb.lineage b c).head? = cb.findClass? c := by
  have hmet : ¬([] : List String).contains c.key = true := by simp
  cases hfind : cb.findClass? c with
  | none => rw [lineage, walk_unknown hmet hfind, walk, List.head?_nil]
  | some e => rw [lineage, walk_enter hmet hfind, List.head?_cons]

theorem lineage_pairwise (cb : CodeBase) (b : Bool) (c : ClassName) :
    (cb.lineage b c).Pairwise fun e f => e.name.same f.name = false := by
  obtain ⟨after, h⟩ := collects_lineage cb b c
  refine h.distinct.imp ?_
  intro e f hne
  rw [← Bool.not_eq_true, Name.same_iff]
  exact hne

theorem findMember?_eq_none_iff {α : Type} {c : ClassName} {pick : ClassEntry → Option α} :
    cb.findMember? b c pick = none ↔ ∀ e, cb.Reaches b c e → pick e = none := by
  rw [findMember?, List.findSome?_eq_none_iff]
  exact forall_congr' fun e => by rw [mem_lineage_iff]

/-- The recursion through a hierarchy ends with one list: every class that can be reached is on it
once, the class itself first, and a class that is not in the index has none. A member is missing
only when no class that can be reached has it. -/
theorem lineage_eq_reachable (cb : CodeBase) (b : Bool) (c : ClassName) :
    (∃ met, ∀ after es, Collects cb b [] [c] after es ↔ after = met ∧ es = cb.lineage b c) ∧
      ((cb.lineage b c).Pairwise fun e f => e.name.same f.name = false) ∧
      (cb.lineage b c).head? = cb.findClass? c ∧
      (cb.lineage b c = [] ↔ cb.findClass? c = none) ∧
      (∀ f, f ∈ cb.lineage b c ↔ cb.Reaches b c f) ∧
      ∀ (α : Type) (pick : ClassEntry → Option α),
        cb.findMember? b c pick = none ↔ ∀ e, cb.Reaches b c e → pick e = none := by
  refine ⟨collects_lineage_iff cb b c, lineage_pairwise cb b c, head?_lineage cb b c, ?_,
    fun _ => mem_lineage_iff, fun _ _ => findMember?_eq_none_iff⟩
  rw [← head?_lineage cb b c, List.head?_eq_none_iff]

/-! ## A hierarchy with circles -/

/-- A class with its references and the names of its methods, each declared on the next line. -/
def sampleEntry (name : String) (kind : ClassKind) (line : UInt32) (parent : Option String)
    (interfaces traits methods : List String) : ClassEntry where
  name := Name.ofText name
  kind := kind
  file := ⟨"file:///src/all.php"⟩
  line := line
  parent := parent.map Name.ofText
  interfaces := interfaces.map Name.ofText
  traits := traits.map Name.ofText
  properties := []
  methods := methods.map fun m => ⟨m, line + 1, false, UnionType.empty⟩
  constants := []

namespace Circles

def report : ClassEntry :=
  sampleEntry "Report" .ordinary 0 (some "Layout") ["Printable"] ["Logged"] []

/-- Nobody declares `Clock`. -/
def logged : ClassEntry := sampleEntry "Logged" .trait 10 none [] ["Clock"] []

/-- The parent of `Report` is its child as well. -/
def layout : ClassEntry := sampleEntry "Layout" .ordinary 20 (some "REPORT") [] [] []

/-- Extends itself. -/
def printable : ClassEntry := sampleEntry "Printable" .interface 30 none ["Printable"] [] []

def codeBase : CodeBase :=
  ofSnapshot ⟨[printable, layout, logged, report], [], []⟩

/-- `Clock` is passed over as unknown and `REPORT` as met. -/
theorem walk_below_report (b : Bool) (rest : List ClassName) :
    codeBase.walk b [report.name.key] (logged.name :: layout.name :: rest) =
      logged :: layout ::
        codeBase.walk b [layout.name.key, logged.name.key, report.name.key] rest := by
  have hlogged : codeBase.findClass? logged.name = some logged := by decide +kernel
  have hlayout : codeBase.findClass? layout.name = some layout := by decide +kernel
  have hclock : codeBase.findClass? (Name.ofText "Clock") = none := by decide +kernel
  have hofLogged : logged.bases b = [Name.ofText "Clock"] := by cases b <;> rfl
  have hofLayout : layout.bases b = [Name.ofText "REPORT"] := by cases b <;> rfl
  rw [walk_enter (by decide +kernel) hlogged, hofLogged, List.singleton_append,
    walk_unknown (by decide +kernel) hclock, walk_enter (by decide +kernel) hlayout, hofLayout,
    List.singleton_append, walk_again (by decide +kernel)]

end Circles

open Circles in
/-- `Report` has a trait, a parent and an interface, the last only where interfaces count. -/
theorem lineage_eq_reachable_circles :
    codeBase.lineage true report.name = [report, logged, layout, printable] ∧
    (∀ f, codeBase.Reaches true report.name f ↔ f ∈ [report, logged, layout, printable]) ∧
    codeBase.lineage false report.name = [report, logged, layout] ∧
    (∀ f, codeBase.Reaches false report.name f ↔ f ∈ [report, logged, layout]) ∧
    codeBase.lineage true (Name.ofText "Clock") = [] := by
  have hnew : ¬([] : List String).contains report.name.key = true := by simp
  have hreport : codeBase.findClass? report.name = some report := by decide +kernel
  have hprintable : codeBase.findClass? printable.name = some printable := by decide +kernel
  have hconcrete : report.bases false = [logged.name, layout.name] := rfl
  have hbases : report.bases true = [logged.name, layout.name, printable.name] := rfl
  have hself : printable.bases true = [printable.name] := rfl
  have hall : codeBase.lineage true report.name = [report, logged, layout, printable] := by
    rw [lineage, walk_enter hnew hreport, hbases, List.append_nil, walk_below_report,
      walk_enter (by decide +kernel) hprintable, hself, List.append_nil,
      walk_again (by decide +kernel), walk]
  have hwithout : codeBase.lineage false report.name = [report, logged, layout] := by
    rw [lineage, walk_enter hnew hreport, hconcrete, List.append_nil, walk_below_report, walk]
  obtain ⟨_, _, _, _, hreach, _⟩ := lineage_eq_reachable codeBase true report.name
  obtain ⟨_, _, _, _, hreachConcrete, _⟩ := lineage_eq_reachable codeBase false report.name
  obtain ⟨_, _, _, hunknown, _⟩ := lineage_eq_reachable codeBase true (Name.ofText "Clock")
  refine ⟨hall, fun f => ?_, hwithout, fun f => ?_, hunknown.mpr (by decide +kernel)⟩
  · rw [← hreach, hall]
  · rw [← hreachConcrete, hwithout]

end CodeBase

end GotoDefinition
