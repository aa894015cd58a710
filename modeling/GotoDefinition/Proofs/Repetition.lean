import GotoDefinition.Proofs.ClosureCalls
import Mathlib.Data.List.Nodup

/-!
# GotoDefinition.Proofs.Repetition

What one node can refer to more than once.

The types of a union are told apart by their names, and so are the declarations that are found under
these names: a node refers to each of them once. But all closures are of one class. Where a node
refers to the classes of an expression, which is what `e::class` does, the class of closures is met
once for each closure type of the expression, and once more for the class itself.

* `UnionType.classes_apart` — no two types of a union have a class in common but that of closures.
* `CodeBase.classRecords_apart`, `CodeBase.count_classRecords` — the records of the classes of a
  union, and how often the class of closures is among them.
* `CodeBase.targets_apart` — the records of any other node.
* `CodeBase.only_closures_repeat` — what is put behind the records of a request.
* `CodeBase.closure_recorded_twice` — an expression with two closure types.
-/

namespace GotoDefinition

/-! ## Lists in which one element may repeat -/

section

variable {α : Type} [DecidableEq α] {R : α → α → Prop} {x : α} {l : List α}

theorem pairwise_of_count_le_one (h : l.Pairwise fun a b => R a b ∨ a = x ∧ b = x)
    (hcount : l.count x ≤ 1) : l.Pairwise R := by
  induction h with
  | nil => exact .nil
  | @cons a l hhead _ ih =>
    refine .cons (fun b hb => ?_) (ih (Nat.le_trans List.count_le_count_cons hcount))
    rcases hhead b hb with hab | ⟨rfl, rfl⟩
    · exact hab
    · have hagain : 0 < l.count b := List.count_pos_iff.mpr hb
      rw [List.count_cons_self] at hcount
      omega

theorem pairwise_filter_ne (h : l.Pairwise fun a b => R a b ∨ a = x ∧ b = x) :
    (l.filter (· ≠ x)).Pairwise R := by
  rw [List.pairwise_filter]
  refine h.imp ?_
  rintro a b (hab | ⟨rfl, _⟩) ha _
  · exact hab
  · exact absurd rfl (of_decide_eq_true ha)

end

/-! ## Records that are told apart -/

namespace Record

/-- The name of what is recorded, as text. -/
def name : Record → String
  | .declaration d _ => d.name
  | .variableType v => v.name

/-- The names differ by more than case. -/
def Apart (a b : Record) : Prop :=
  Text.alike a.name b.name = false

theorem Apart.ne {a b : Record} (h : a.Apart b) : a ≠ b := by
  rintro rfl
  rw [Apart, Text.alike_refl] at h
  cases h

theorem nodup_of_apart {records : List Record} (h : records.Pairwise Apart) : records.Nodup :=
  h.imp Apart.ne

end Record

/-! ## Classes of a union -/

namespace UnionType

/-- How many types are of the class of closures: the closures and this class itself. -/
def closureCount (u : UnionType) : Nat :=
  u.classes.countP (·.same Ty.closureClass)

/-- Types that are not the same have different classes, unless one of them is a closure. -/
theorem classes_apart (u : UnionType) :
    u.classes.Pairwise fun c d => c.same d = true → c.same Ty.closureClass = true := by
  refine u.distinct.filterMap _ ?_
  intro s t hst c hc d hd hcd
  cases s with
  | native s => cases hc
  | closure f =>
    cases hc
    exact Name.same_refl Ty.closureClass
  | instanceOf s =>
    cases hc
    cases t with
    | native t => cases hd
    | closure f =>
      cases hd
      exact hcd
    | instanceOf t =>
      cases hd
      rw [Ty.same, hcd] at hst
      cases hst

theorem closureCount_single (t : Ty) : (UnionType.ofList [t]).closureCount ≤ 1 :=
  calc (UnionType.ofList [t]).closureCount
      ≤ (UnionType.ofList [t]).classes.length := List.countP_le_length
    _ ≤ (UnionType.ofList [t]).types.length := List.length_filterMap_le _ _
    _ = 1 := rfl

end UnionType

/-- The expression in `e::class`, where `class` is written in any case. -/
def Node.classExpression? (n : Node) : Option Node :=
  match n.shape with
  | .classConstant receiver (.literal word) =>
    if Text.alike word "class" then some receiver else none
  | _ => none

namespace CodeBase

variable {cb : CodeBase} {ctx : Context} {n : Node} {t : Toggles} {mode : Mode}

/-! ## Records of classes -/

def shown (e : ClassEntry) : Record :=
  .declaration (.classLike e.decl) false

def classRecord? (cb : CodeBase) (c : ClassName) : Option Record :=
  (cb.findClass? c).map shown

theorem classRecords_eq_filterMap (cb : CodeBase) (t : Toggles) (u : UnionType) :
    (cb.resolver t).classRecords u = u.classes.filterMap cb.classRecord? := by
  rw [Resolver.classRecords, List.filterMap_filter, List.map_filterMap]
  congr 1
  funext c
  rw [classRecord?]
  cases hfind : cb.findClass? c with
  | none =>
    have hnone : (cb.resolver t).index.hasClass c = false := congrArg Option.isSome hfind
    rw [hnone]
    rfl
  | some e =>
    have hhas : (cb.resolver t).index.hasClass c = true := congrArg Option.isSome hfind
    have hdecl : (cb.resolver t).index.findClass? c = some e.decl :=
      congrArg (Option.map ClassEntry.decl) hfind
    rw [if_pos hhas, hdecl]
    rfl

/-- The record of a class has the name of the class up to case. -/
theorem fold_name_of_classRecord? {c : ClassName} {a : Record} (h : cb.classRecord? c = some a) :
    Text.fold a.name = c.key := by
  obtain ⟨e, he, rfl⟩ := Option.map_eq_some_iff.mp h
  exact key_of_findClass? he

theorem classRecord?_of_findClass? {c : ClassName} {e : ClassEntry}
    (h : cb.findClass? c = some e) : cb.classRecord? c = some (shown e) := by
  rw [classRecord?, h, Option.map_some]

theorem same_of_not_apart {c d : ClassName} {a b : Record} (ha : cb.classRecord? c = some a)
    (hb : cb.classRecord? d = some b) (h : ¬a.Apart b) : c.same d = true := by
  rw [Record.Apart, Bool.not_eq_false, Text.alike_iff, fold_name_of_classRecord? ha,
    fold_name_of_classRecord? hb] at h
  exact Name.same_iff.mpr h

theorem classRecord?_congr {c d : ClassName} (h : c.same d = true) :
    cb.classRecord? c = cb.classRecord? d := by
  rw [classRecord?, classRecord?, findClass?_congr (Name.same_iff.mp h)]

/-- The one record that can come again is that of the class of closures. -/
theorem classRecords_apart (cb : CodeBase) (t : Toggles) (u : UnionType) :
    ((cb.resolver t).classRecords u).Pairwise fun a b =>
      a.Apart b ∨
        cb.classRecord? Ty.closureClass = some a ∧ cb.classRecord? Ty.closureClass = some b := by
  rw [classRecords_eq_filterMap]
  refine u.classes_apart.filterMap _ ?_
  intro c d hclosure a ha b hb
  by_cases hab : a.Apart b
  · exact .inl hab
  · -- Two types have one class in common only if it is the class of closures.
    have hcd : c.same d = true := same_of_not_apart ha hb hab
    have hc : cb.classRecord? Ty.closureClass = cb.classRecord? c :=
      (classRecord?_congr (hclosure hcd)).symm
    exact .inr ⟨hc.trans ha, hc.trans ((classRecord?_congr hcd).trans hb)⟩

theorem classRecords_apart_or_eq {a : Record} (h : cb.classRecord? Ty.closureClass = some a)
    (t : Toggles) (u : UnionType) :
    ((cb.resolver t).classRecords u).Pairwise fun b c => b.Apart c ∨ b = a ∧ c = a := by
  refine (classRecords_apart cb t u).imp ?_
  rintro b c (hbc | ⟨hb, hc⟩)
  · exact .inl hbc
  · rw [h, Option.some.injEq] at hb hc
    exact .inr ⟨hb.symm, hc.symm⟩

theorem classRecord?_eq_iff {c d : ClassName} {a : Record} (ha : cb.classRecord? d = some a) :
    cb.classRecord? c = some a ↔ c.same d = true := by
  constructor
  · intro hc
    exact same_of_not_apart hc ha fun h => h.ne rfl
  · intro h
    rw [classRecord?_congr h, ha]

/-- The class of closures is recorded once for each type that is of this class. -/
theorem count_classRecords {a : Record} (h : cb.classRecord? Ty.closureClass = some a)
    (t : Toggles) (u : UnionType) :
    ((cb.resolver t).classRecords u).count a = u.closureCount := by
  rw [classRecords_eq_filterMap, List.count, List.countP_filterMap, UnionType.closureCount]
  refine List.countP_congr fun c _ => ?_
  rw [← classRecord?_eq_iff h]
  cases cb.classRecord? c with
  | none => simp
  | some b => simp

theorem classRecords_apart_of_count {u : UnionType}
    (h : cb.hasClass Ty.closureClass = true → u.closureCount ≤ 1) (t : Toggles) :
    ((cb.resolver t).classRecords u).Pairwise Record.Apart := by
  cases hfind : cb.findClass? Ty.closureClass with
  | none =>
    have hnone : cb.classRecord? Ty.closureClass = none := by
      rw [classRecord?, hfind, Option.map_none]
    refine (classRecords_apart cb t u).imp ?_
    rintro a b (hab | ⟨ha, _⟩)
    · exact hab
    · rw [hnone] at ha
      cases ha
  | some d =>
    have hrecord := classRecord?_of_findClass? hfind
    have hhas : cb.hasClass Ty.closureClass = true := by rw [hasClass, hfind, Option.isSome_some]
    refine pairwise_of_count_le_one (classRecords_apart_or_eq hrecord t u) ?_
    rw [count_classRecords hrecord]
    exact h hhas

/-! ## Records of a node -/

theorem targets_classExpression {e : Node} (h : n.classExpression? = some e) :
    (cb.resolver t).targets mode ctx n = (cb.typeOf ctx e).map (cb.resolver t).classRecords := by
  obtain ⟨shape, range⟩ := n
  cases shape with
  | classConstant receiver name =>
    cases name with
    | literal word =>
      simp only [Node.classExpression?, Node.shape, Option.ite_none_right_eq_some,
        Option.some.injEq] at h
      obtain ⟨hword, rfl⟩ := h
      rw [targets_classConstant, if_pos hword]
    | computed m => cases h
  | classRef name => cases h
  | property isStatic receiver name => cases h
  | methodCall isStatic receiver name => cases h
  | call callee => cases h
  | constantRef name => cases h
  | «variable» name => cases h
  | other => cases h

/-- A lookup that succeeds leads to a single record. -/
theorem apart_of_lookup {α : Type} {x : Except LookupError α} {record : α → Record}
    {added : List Record} (h : x.map (fun d => [record d]) = .ok added) :
    added.Pairwise Record.Apart := by
  obtain ⟨d, _, rfl⟩ := ok_of_map_eq_ok h
  exact List.pairwise_singleton _ _

/-- The functions of a callee have different names. -/
theorem functions_apart {callee : Node} {ds : List FunctionDecl}
    (h : allOrFirstError (cb.functionsOf ctx callee (cb.typeOf ctx callee)) = .ok ds) :
    ds.Pairwise fun d e => d.name.same e.name = false := by
  by_cases hname : ∃ name, callee.shape = .classRef name
  · obtain ⟨name, hname⟩ := hname
    rw [functionsOf, hname] at h
    have hsingle : [cb.namedFunction ctx name] = ds.map .ok := allOrFirstError_eq_ok_iff.mp h
    obtain ⟨d, rfl⟩ : ∃ d, ds = [d] := by
      rw [← List.length_eq_one_iff, ← List.length_map, ← hsingle, List.length_singleton]
    exact List.pairwise_singleton _ _
  · rw [functionsOf_value fun name hshape => hname ⟨name, hshape⟩] at h
    obtain ⟨u, _, hds⟩ := allOrFirstError_closureFunctions.mp h
    exact hds.distinct

theorem variableTargets_apart {name : NameSlot} {added : List Record}
    (h : Resolver.variableTargets mode ctx name = .ok added) : added.Pairwise Record.Apart := by
  cases mode with
  | definition =>
    cases h
    exact .nil
  | typeDefinition =>
    rw [Resolver.variableTargets] at h
    split at h
    · cases h
    · split at h
      · cases h
      · cases h
        exact List.pairwise_singleton _ _

/-- What a node other than `e::class` refers to has different names throughout. -/
theorem targets_apart {added : List Record} (hn : n.classExpression? = none)
    (h : (cb.resolver t).targets mode ctx n = .ok added) : added.Pairwise Record.Apart := by
  obtain ⟨shape, range⟩ := n
  cases shape with
  | classRef name =>
    rw [targets_classRef] at h
    obtain ⟨u, hu, rfl⟩ := ok_of_map_eq_ok h
    rw [typeOf] at hu
    split at hu
    · cases hu
    · cases hu
      exact classRecords_apart_of_count (fun _ => UnionType.closureCount_single _) t
  | property isStatic receiver name =>
    rw [targets_property] at h
    exact apart_of_lookup h
  | methodCall isStatic receiver name =>
    cases name with
    | literal name =>
      rw [targets_methodCall] at h
      exact apart_of_lookup h
    | computed m => cases h
  | call callee =>
    rw [targets_call] at h
    obtain ⟨ds, hds, rfl⟩ := ok_of_map_eq_ok h
    exact List.pairwise_map.mpr (functions_apart hds)
  | classConstant receiver name =>
    cases name with
    | literal word =>
      simp only [Node.classExpression?, Node.shape, ite_eq_right_iff, reduceCtorEq,
        imp_false] at hn
      rw [targets_classConstant, if_neg hn] at h
      exact apart_of_lookup h
    | computed m => cases h
  | constantRef name =>
    rw [targets_constantRef] at h
    exact apart_of_lookup h
  | «variable» name => exact variableTargets_apart h
  | other =>
    cases h
    exact .nil

theorem records_apart
    (h : ∀ e u, n.classExpression? = some e → cb.typeOf ctx e = .ok u →
      cb.hasClass Ty.closureClass = true → u.closureCount ≤ 1) (t : Toggles) (mode : Mode) :
    ((cb.resolver t).records mode ctx n).Pairwise Record.Apart := by
  rw [Resolver.records]
  split
  · split
    · rename_i added htargets
      cases hn : n.classExpression? with
      | none => exact targets_apart hn htargets
      | some e =>
        rw [targets_classExpression hn] at htargets
        obtain ⟨u, hu, rfl⟩ := ok_of_map_eq_ok htargets
        exact classRecords_apart_of_count (h e u hn hu) t
    · exact .nil
  · exact .nil

theorem records_classExpression {e : Node} {u : UnionType} (hn : n.classExpression? = some e)
    (hu : cb.typeOf ctx e = .ok u) (hallow : t.allow mode = true) :
    (cb.resolver t).records mode ctx n = (cb.resolver t).classRecords u := by
  have htargets : (cb.resolver t).targets mode ctx n = .ok ((cb.resolver t).classRecords u) := by
    rw [targets_classExpression hn, hu]
    rfl
  exact Resolver.records_of_targets hallow htargets

/-! ## What repeats -/

/-- The records that a node adds to a request have different names throughout, so that none is added
twice, unless the node is `e::class` and several types of `e` are of the class of closures. This
class, if it is indexed, is then recorded once for each of these types, and the other records still
have different names. -/
theorem only_closures_repeat (cb : CodeBase) (ctx : Context) (n : Node) (t : Toggles)
    (req : Request) :
    ∃ added, (cb.resolver t).resolve ctx n req = req.append added ∧
      ((∀ e u, n.classExpression? = some e → cb.typeOf ctx e = .ok u →
          cb.hasClass Ty.closureClass = true → u.closureCount ≤ 1) →
        added.Nodup ∧ added.Pairwise Record.Apart) ∧
      ∀ e u d, n.classExpression? = some e → cb.typeOf ctx e = .ok u →
        cb.findClass? Ty.closureClass = some d → t.allow req.mode = true →
          added.count (shown d) = u.closureCount ∧
            (added.filter (· ≠ shown d)).Nodup ∧
            (added.filter (· ≠ shown d)).Pairwise Record.Apart := by
  refine ⟨(cb.resolver t).records req.mode ctx n, rfl, fun h => ?_, ?_⟩
  · have hapart := records_apart h t req.mode
    exact ⟨Record.nodup_of_apart hapart, hapart⟩
  · intro e u d hn hu hfind hallow
    have hrecord := classRecord?_of_findClass? hfind
    have hothers := pairwise_filter_ne (classRecords_apart_or_eq hrecord t u)
    rw [records_classExpression hn hu hallow]
    exact ⟨count_classRecords hrecord t u, Record.nodup_of_apart hothers, hothers⟩

/-! ## Two closures -/

namespace Reflected

def closures : ClassEntry :=
  ⟨Name.ofText "Closure", .ordinary, ⟨"file:///php/Closure.php"⟩, 3, none, [], [], [], [], []⟩

def codeBase : CodeBase :=
  ofSnapshot ⟨[closures], [], []⟩

/-- The variable holds one of two closures. -/
def handler : UnionType :=
  UnionType.ofList [.closure (Name.ofText "open"), .closure (Name.ofText "close")]

def context : Context :=
  Context.empty.withVariable (.named "handler" handler)

/-- `$handler::class` -/
def itself : Node :=
  Node.classConstant (Node.variableNamed "handler") (.literal "class")

def request : Request :=
  Request.start .definition

end Reflected

open Reflected in
/-- One node adds the same declaration to a request once for each of the two closures. -/
theorem closure_recorded_twice :
    (codeBase.resolver Toggles.all).resolve context itself request =
      request.append [shown closures, shown closures] ∧
    ¬((codeBase.resolver Toggles.all).resolve context itself request).records.Nodup := by
  have htype : codeBase.typeOf context (Node.variableNamed "handler") = .ok handler :=
    eq_ok_of_toOption (by decide +kernel)
  have hexpression : itself.classExpression? = some (Node.variableNamed "handler") := by
    decide +kernel
  have hclasses : (codeBase.resolver Toggles.all).classRecords handler =
      [shown closures, shown closures] := by
    decide +kernel
  have hresolve : (codeBase.resolver Toggles.all).resolve context itself request =
      request.append [shown closures, shown closures] := by
    rw [Resolver.resolve, records_classExpression hexpression htype rfl, hclasses]
  refine ⟨hresolve, ?_⟩
  rw [hresolve]
  decide +kernel

end CodeBase

end GotoDefinition
