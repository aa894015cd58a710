import GotoDefinition.Proofs.Run
import Mathlib.Data.List.Basic

/-!
# GotoDefinition.Proofs.Consultation

Who is asked about a node.

Classes are a matter of the types of expressions and of the index of classes; members, functions and
constants are a matter of the table of members. The shape of a node says which of the two is asked,
and the other may be anything at all. About a variable or an unknown shape, and for a computed name
of a method or constant, nobody is asked.

* `Node.authority` — who decides about a node.
* `answers_congr` — the answers come from there.
* `records_congr`, `resolveAll_congr` — so do the records, those of a node and those of a run.
* `each_shape_asks_its_own` — the independence from everybody else, authority by authority.
-/

namespace GotoDefinition

/-- Those who may be asked about a node. -/
inductive Authority where
  /-- The types of expressions, together with the index of classes. -/
  | classes
  | members
  | nobody
  deriving DecidableEq, Repr

/-- Who decides about a node. `e::class` is a matter of classes, and any other constant of a class
is a matter of members. -/
def Node.authority (n : Node) : Authority :=
  match n.shape with
  | .classRef _ => .classes
  | .property _ _ _ => .members
  | .methodCall _ _ (.literal _) => .members
  | .methodCall _ _ (.computed _) => .nobody
  | .call _ => .members
  | .classConstant _ (.literal name) =>
    if Text.alike name "class" then .classes else .members
  | .classConstant _ (.computed _) => .nobody
  | .constantRef _ => .members
  | .variable _ => .nobody
  | .other => .nobody

/-- The two resolvers have it in common. -/
def Authority.Shared : Authority → Resolver → Resolver → Prop
  | .classes, r, s => r.types = s.types ∧ r.index = s.index
  | .members, r, s => r.members = s.members
  | .nobody, _, _ => True

namespace Resolver

variable {r s : Resolver} {ctx : Context} {n : Node}

/-! ## Answers -/

theorem classRecords_eq (h : r.index = s.index) : r.classRecords = s.classRecords := by
  funext u
  rw [classRecords, classRecords, h]

theorem answers_congr (ctx : Context) (h : n.authority.Shared r s) :
    r.answers ctx n = s.answers ctx n := by
  obtain ⟨shape, range⟩ := n
  cases shape with
  | classRef name =>
    obtain ⟨htypes, hindex⟩ : r.types = s.types ∧ r.index = s.index := h
    simp only [answers, Node.shape, htypes, classRecords_eq hindex]
  | property isStatic receiver name =>
    have hmembers : r.members = s.members := h
    simp only [answers, Node.shape, hmembers]
  | methodCall isStatic receiver name =>
    cases name with
    | literal name =>
      have hmembers : r.members = s.members := h
      simp only [answers, Node.shape, hmembers]
    | computed m => rfl
  | call callee =>
    have hmembers : r.members = s.members := h
    simp only [answers, Node.shape, hmembers]
  | classConstant receiver name =>
    cases name with
    | literal name =>
      simp only [Node.authority, Node.shape] at h
      simp only [answers, Node.shape]
      split at h
      · rename_i hclass
        obtain ⟨htypes, hindex⟩ : r.types = s.types ∧ r.index = s.index := h
        rw [if_pos hclass, if_pos hclass, htypes, classRecords_eq hindex]
      · rename_i hclass
        have hmembers : r.members = s.members := h
        rw [if_neg hclass, if_neg hclass, hmembers]
    | computed m => rfl
  | constantRef name =>
    have hmembers : r.members = s.members := h
    simp only [answers, Node.shape, hmembers]
  | «variable» name => rfl
  | other => rfl

/-! ## Records -/

/-- Where no answer is needed, no resolver knows more than another. -/
theorem targets_of_unanswered (mode : Mode) (hr : r.answers ctx n = [])
    (hs : s.answers ctx n = []) : r.targets mode ctx n = s.targets mode ctx n := by
  obtain ⟨shape, range⟩ := n
  cases shape with
  | classRef name => cases hr
  | property isStatic receiver name => cases hr
  | methodCall isStatic receiver name =>
    cases name with
    | literal name => cases hr
    | computed m => rfl
  | call callee =>
    have hr' : r.members.functions ctx callee = [] := List.map_eq_nil_iff.mp hr
    have hs' : s.members.functions ctx callee = [] := List.map_eq_nil_iff.mp hs
    simp only [targets, Node.shape, callTargets, hr', hs']
  | classConstant receiver name =>
    cases name with
    | literal name =>
      simp only [answers, Node.shape] at hr
      split at hr <;> cases hr
    | computed m => rfl
  | constantRef name => cases hr
  | «variable» name => rfl
  | other => rfl

theorem targets_of_answers (mode : Mode) (h : r.answers ctx n = s.answers ctx n) :
    r.targets mode ctx n = s.targets mode ctx n := by
  by_cases hr : r.answers ctx n = []
  · exact targets_of_unanswered mode hr (h.symm.trans hr)
  · have hs : s.answers ctx n ≠ [] := fun hs => hr (h.trans hs)
    rw [targets_eq_answers mode hr, targets_eq_answers mode hs, h]

theorem records_congr {mode : Mode} (ctx : Context) (h : n.authority.Shared r s)
    (hallow : r.toggles.allow mode = s.toggles.allow mode) :
    r.records mode ctx n = s.records mode ctx n := by
  rw [records, records, hallow, targets_of_answers mode (answers_congr ctx h)]

/-- Runs agree as soon as their resolvers share those who decide about the nodes of the run. -/
theorem resolveAll_congr {req : Request} {calls : List (Context × Node)}
    (h : ∀ call ∈ calls, call.2.authority.Shared r s)
    (hallow : r.toggles.allow req.mode = s.toggles.allow req.mode) :
    r.resolveAll req calls = s.resolveAll req calls := by
  rw [resolveAll_eq_append, resolveAll_eq_append]
  refine congrArg req.append (List.flatMap_congr fun call hcall => ?_)
  rw [contribution_eq_records, contribution_eq_records, records_congr call.1 (h call hcall) hallow]

/-! ## Resolvers that share little -/

namespace Exchanged

def alpha : ClassDecl :=
  ⟨Name.ofText "Alpha", .ordinary, Location.atLine ⟨"file:///src/Alpha.php"⟩ 2⟩

/-- Every expression is an `Alpha`. -/
def everywhere : TypeOracle :=
  ⟨fun _ _ => .ok (UnionType.ofList [.instanceOf alpha.name])⟩

def always : SymbolIndex :=
  ⟨fun _ => true, fun _ => some alpha⟩

/-- The members are those of `Interrupted.resolver`, which knows neither types nor classes. -/
def knowing : Resolver :=
  ⟨everywhere, always, Interrupted.members, ⟨true, false⟩⟩

/-- The types and the index are those of `knowing`. -/
def forgetful : Resolver where
  types := everywhere
  index := always
  members :=
    { property := fun _ _ _ => .error (.undeclared "property")
      method := fun _ _ _ _ => .error (.undeclared "method")
      classConstant := fun _ _ => .error (.undeclared "constant")
      constant := fun _ _ => .error (.undeclared "constant")
      functions := fun _ _ => [] }
  toggles := Toggles.all

/-- `Alpha::Class` -/
def itself : Node :=
  .mk (.classConstant (.mk (.classRef "Alpha") Range.zero) (.literal "Class")) Range.zero

/-- `$alpha->{$name}()` -/
def computedCall : Node :=
  .mk (.methodCall false (Node.variableNamed "alpha") (.computed (Node.variableNamed "name")))
    Range.zero

def request : Request :=
  Request.start .definition

end Exchanged

/-! ## Independence -/

/-- Resolvers that answer the same requests add the same records to a request for a node, whatever
else they are made of, once they share those whom the shape of the node names: the table of members,
or the types and the index, or nobody. And `Foo::class` adds what `Foo` adds. -/
theorem each_shape_asks_its_own (req : Request)
    (hallow : r.toggles.allow req.mode = s.toggles.allow req.mode) :
    (r.members = s.members → ∀ ctx n, n.authority = .members →
      r.resolve ctx n req = s.resolve ctx n req) ∧
    (r.types = s.types → r.index = s.index → ∀ ctx n, n.authority = .classes →
      r.resolve ctx n req = s.resolve ctx n req) ∧
    (∀ ctx n, n.authority = .nobody → r.resolve ctx n req = s.resolve ctx n req) ∧
    ∀ ctx name word q p, Text.alike word "class" = true →
      r.resolve ctx (.mk (.classConstant (.mk (.classRef name) q) (.literal word)) p) req =
        r.resolve ctx (.mk (.classRef name) q) req := by
  have hresolve : ∀ ctx n, n.authority.Shared r s →
      r.resolve ctx n req = s.resolve ctx n req := by
    intro ctx n hshared
    rw [resolve, resolve, records_congr ctx hshared hallow]
  refine ⟨fun hmembers ctx n hn => ?_, fun htypes hindex ctx n hn => ?_, fun ctx n hn => ?_, ?_⟩
  · apply hresolve
    rw [hn]
    exact hmembers
  · apply hresolve
    rw [hn]
    exact ⟨htypes, hindex⟩
  · apply hresolve
    rw [hn]
    trivial
  · intro ctx name word q p hword
    simp only [resolve, records, targets, Node.shape, classConstantTargets_literal, if_pos hword]

open Exchanged in
/-- Three resolvers, each of which shares one authority with the next. -/
theorem each_shape_asks_its_own_exchanged :
    Interrupted.resolver.toggles.allow request.mode = knowing.toggles.allow request.mode ∧
    knowing.toggles.allow request.mode = forgetful.toggles.allow request.mode ∧
    Interrupted.resolver.members = knowing.members ∧
    (knowing.types = forgetful.types ∧ knowing.index = forgetful.index) ∧
    (knowing.resolve Context.empty Interrupted.whole request).records =
      [Interrupted.shown Interrupted.opens, Interrupted.shown Interrupted.closes] ∧
    (forgetful.resolve Context.empty itself request).records =
      [.declaration (.classLike alpha) false] ∧
    (∀ n, n.authority = .nobody →
      knowing.resolve Context.empty n request = forgetful.resolve Context.empty n request) ∧
    knowing.resolve Context.empty computedCall request = request := by
  obtain ⟨hmembers, _, _, _⟩ :=
    each_shape_asks_its_own (r := Interrupted.resolver) (s := knowing) request rfl
  obtain ⟨_, hclasses, hnobody, hitself⟩ :=
    each_shape_asks_its_own (r := knowing) (s := forgetful) request rfl
  refine ⟨rfl, rfl, rfl, ⟨rfl, rfl⟩, ?_, ?_, hnobody Context.empty, ?_⟩
  · rw [← hmembers rfl Context.empty Interrupted.whole rfl]
    rfl
  · have hbare := hitself Context.empty "Alpha" "Class" Range.zero Range.zero (by decide +kernel)
    rw [← hclasses rfl rfl Context.empty itself (by decide +kernel), itself, hbare]
    rfl
  · rw [hnobody Context.empty computedCall rfl]
    rfl

end Resolver

end GotoDefinition
