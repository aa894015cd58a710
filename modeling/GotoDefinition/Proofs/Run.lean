import GotoDefinition.Resolver
import Mathlib.Data.List.Forall2

/-!
# GotoDefinition.Proofs.Run

Many nodes resolved one after the other for one request.

A node adds behind the records that are there what it adds to a fresh request. What it adds rests
on the answers of the oracles: a class, a member or a constant on one, a call on one for each
function. A single answer that fails takes the others with it.

* `resolveAll_eq_append` — what a whole run leaves.
* `allOrFirstError_eq_ok_iff`, `allOrFirstError_of_error_mem` — all answers or none.
* `allOrFirstError_map_eq_error_iff` — none because of the first one that failed.
* `targets_eq_answers` — a node refers to what all the answers stand for.
* `resolveAll_atomic` — a run adds node by node, all the answers of a node or nothing.
-/

namespace GotoDefinition

/-! ## All or nothing -/

variable {ε α β : Type}

theorem ok_of_map_eq_ok {f : α → β} {x : Except ε α} {b : β} (h : x.map f = .ok b) :
    ∃ a, x = .ok a ∧ f a = b := by
  cases x with
  | error e => cases h
  | ok a => exact ⟨a, rfl, Except.ok.inj h⟩

theorem map_eq_error_iff {f : α → β} {x : Except ε α} {e : ε} :
    x.map f = .error e ↔ x = .error e := by
  cases x <;> simp [Except.map]

theorem allOrFirstError_ok (as : List α) :
    allOrFirstError (as.map (Except.ok : α → Except ε α)) = .ok as := by
  induction as with
  | nil => rfl
  | cons a as ih => simp only [List.map_cons, allOrFirstError, ih]

theorem allOrFirstError_eq_ok_iff {xs : List (Except ε α)} {as : List α} :
    allOrFirstError xs = .ok as ↔ xs = as.map .ok := by
  constructor
  · intro h
    induction xs generalizing as with
    | nil =>
      cases h
      rfl
    | cons x xs ih =>
      cases x with
      | error e => cases h
      | ok a =>
        rw [allOrFirstError] at h
        split at h
        · cases h
        · rename_i rest hrest
          cases h
          rw [List.map_cons, ← ih hrest]
  · rintro rfl
    exact allOrFirstError_ok as

theorem allOrFirstError_map_eq_ok_iff {f : α → Except ε β} {xs : List α} {bs : List β} :
    allOrFirstError (xs.map f) = .ok bs ↔ List.Forall₂ (fun x b => f x = .ok b) xs bs := by
  rw [allOrFirstError_eq_ok_iff, ← List.forall₂_eq_eq_eq, List.forall₂_map_left_iff,
    List.forall₂_map_right_iff]

/-- A failure spoils what stands before it as well as what stands behind it. -/
theorem allOrFirstError_of_error_mem {xs : List (Except ε α)} {e : ε} (h : .error e ∈ xs) :
    ∃ f, allOrFirstError xs = .error f := by
  cases hall : allOrFirstError xs with
  | error f => exact ⟨f, rfl⟩
  | ok as =>
    rw [allOrFirstError_eq_ok_iff.mp hall] at h
    obtain ⟨a, _, ha⟩ := List.mem_map.mp h
    cases ha

/-- The failure is the one that comes first. -/
theorem allOrFirstError_map_eq_error_iff {f : α → Except ε β} {xs : List α} {e : ε} :
    allOrFirstError (xs.map f) = .error e ↔
      ∃ before x after, xs = before ++ x :: after ∧ (∀ y ∈ before, ∃ b, f y = .ok b) ∧
        f x = .error e := by
  induction xs with
  | nil => exact iff_of_false nofun (by simp)
  | cons x xs ih =>
    cases hx : f x with
    | error d =>
      rw [List.map_cons, hx, allOrFirstError]
      constructor
      · intro h
        cases h
        exact ⟨[], x, xs, rfl, nofun, hx⟩
      · rintro ⟨before, y, after, hxs, hbefore, hy⟩
        cases before with
        | nil =>
          cases hxs
          rw [hx] at hy
          cases hy
          rfl
        | cons z before =>
          cases hxs
          obtain ⟨b, hb⟩ := hbefore x List.mem_cons_self
          rw [hx] at hb
          cases hb
    | ok a =>
      have hrest : allOrFirstError ((x :: xs).map f) = .error e ↔
          allOrFirstError (xs.map f) = .error e := by
        rw [List.map_cons, hx, allOrFirstError]
        cases allOrFirstError (xs.map f) <;> simp
      rw [hrest, ih]
      constructor
      · rintro ⟨before, y, after, rfl, hbefore, hy⟩
        exact ⟨x :: before, y, after, rfl, List.forall_mem_cons.mpr ⟨⟨a, hx⟩, hbefore⟩, hy⟩
      · rintro ⟨before, y, after, hxs, hbefore, hy⟩
        cases before with
        | nil =>
          cases hxs
          rw [hx] at hy
          cases hy
        | cons z before =>
          cases hxs
          exact ⟨before, y, after, rfl, (List.forall_mem_cons.mp hbefore).2, hy⟩

theorem exists_allOrFirstError_map_iff {f : α → Except ε β} {xs : List α} :
    (∃ bs, allOrFirstError (xs.map f) = .ok bs) ↔ ∀ x ∈ xs, ∃ b, f x = .ok b := by
  constructor
  · rintro ⟨bs, hbs⟩ x hx
    have hmem : f x ∈ bs.map Except.ok :=
      allOrFirstError_eq_ok_iff.mp hbs ▸ List.mem_map_of_mem hx
    obtain ⟨b, _, hb⟩ := List.mem_map.mp hmem
    exact ⟨b, hb.symm⟩
  · intro h
    cases hall : allOrFirstError (xs.map f) with
    | ok bs => exact ⟨bs, rfl⟩
    | error e =>
      obtain ⟨before, x, after, rfl, _, hx⟩ := allOrFirstError_map_eq_error_iff.mp hall
      obtain ⟨b, hb⟩ := h x List.mem_append_cons_self
      rw [hx] at hb
      cases hb

theorem allOrFirstError_append (xs ys : List (Except ε α)) :
    allOrFirstError (xs ++ ys) =
      match allOrFirstError xs with
      | .error e => .error e
      | .ok as => (allOrFirstError ys).map (as ++ ·) := by
  induction xs with
  | nil =>
    rw [List.nil_append, allOrFirstError]
    cases allOrFirstError ys <;> rfl
  | cons x xs ih =>
    cases x with
    | error e => rfl
    | ok a =>
      rw [List.cons_append, allOrFirstError, allOrFirstError, ih]
      cases allOrFirstError xs with
      | error e => rfl
      | ok as => cases allOrFirstError ys <;> rfl

theorem allOrFirstError_map (g : α → β) (xs : List (Except ε α)) :
    allOrFirstError (xs.map (Except.map g)) = (allOrFirstError xs).map (List.map g) := by
  induction xs with
  | nil => rfl
  | cons x xs ih =>
    cases x with
    | error e => rfl
    | ok a =>
      simp only [List.map_cons, Except.map, allOrFirstError, ih]
      cases allOrFirstError xs with
      | error e => rfl
      | ok as => rfl

namespace Resolver

/-! ## The answers that a node rests on -/

/-- The records of the classes of a type. -/
def classRecords (r : Resolver) (u : UnionType) : List Record :=
  ((u.classes.filter r.index.hasClass).filterMap r.index.findClass?).map fun d =>
    .declaration (.classLike d) false

/-- What the oracles answer for a node, each answer as the records that it stands for. Nobody is
asked about a variable, about a shape that is not known, or for a name that is computed. -/
def answers (r : Resolver) (ctx : Context) (n : Node) : List (Except LookupError (List Record)) :=
  match n.shape with
  | .classRef _ => [(r.types.typeOf ctx n).map r.classRecords]
  | .property isStatic _ _ =>
    [(r.members.property ctx n isStatic).map fun d => [.declaration (.property d) true]]
  | .methodCall isStatic _ (.literal name) =>
    [(r.members.method ctx n name isStatic).map fun d => [.declaration (.method d) true]]
  | .call callee =>
    (r.members.functions ctx callee).map (Except.map fun d => [.declaration (.function d) true])
  | .classConstant receiver (.literal name) =>
    if Text.alike name "class" then [(r.types.typeOf ctx receiver).map r.classRecords]
    else [(r.members.classConstant ctx n).map fun d => [.declaration (.classConstant d) false]]
  | .constantRef _ =>
    [(r.members.constant ctx n).map fun d => [.declaration (.constant d) false]]
  | .methodCall _ _ (.computed _) => []
  | .classConstant _ (.computed _) => []
  | .variable _ => []
  | .other => []

variable {r : Resolver} {ctx : Context} {n : Node}

theorem classTargets_eq_answer (r : Resolver) (ctx : Context) (n : Node) :
    r.classTargets ctx n =
      (allOrFirstError [(r.types.typeOf ctx n).map r.classRecords]).map List.flatten := by
  rw [classTargets]
  cases r.types.typeOf ctx n with
  | error e => rfl
  | ok u => exact congrArg Except.ok (List.append_nil _).symm

/-- `e::class` is a matter of the type of `e`, and any other constant one of the members. -/
theorem classConstantTargets_literal (r : Resolver) (ctx : Context) (n receiver : Node)
    (name : String) :
    r.classConstantTargets ctx n receiver (.literal name) =
      if Text.alike name "class" then r.classTargets ctx receiver
      else (r.members.classConstant ctx n).map fun d =>
        [.declaration (.classConstant d) false] := by
  by_cases hclass : Text.alike name "class" = true
  · rw [if_pos hclass]
    exact if_pos hclass
  · rw [if_neg hclass]
    refine (if_neg hclass).trans ?_
    cases r.members.classConstant ctx n with
    | error e => rfl
    | ok d => rfl

/-- Where somebody is asked, the node refers to what the answers stand for, in their order, and to
nothing when one of them fails. -/
theorem targets_eq_answers (mode : Mode) (h : r.answers ctx n ≠ []) :
    r.targets mode ctx n = (allOrFirstError (r.answers ctx n)).map List.flatten := by
  obtain ⟨shape, range⟩ := n
  cases shape with
  | classRef name => exact classTargets_eq_answer r ctx _
  | property isStatic receiver name =>
    simp only [targets, answers, Node.shape, propertyTargets]
    cases r.members.property ctx (.mk (.property isStatic receiver name) range) isStatic with
    | error e => rfl
    | ok d => rfl
  | methodCall isStatic receiver name =>
    cases name with
    | computed m => exact absurd rfl h
    | literal name =>
      simp only [targets, answers, Node.shape, methodTargets, NameSlot.literal?]
      cases r.members.method ctx
          (.mk (.methodCall isStatic receiver (.literal name)) range) name isStatic with
      | error e => rfl
      | ok d => rfl
  | call callee =>
    have hanswers : r.answers ctx (.mk (.call callee) range) =
        (r.members.functions ctx callee).map
          (Except.map fun d => [.declaration (.function d) true]) := rfl
    simp only [targets, Node.shape, callTargets, hanswers, allOrFirstError_map]
    cases allOrFirstError (r.members.functions ctx callee) with
    | error e => rfl
    | ok ds =>
      refine congrArg Except.ok ?_
      rw [List.map_eq_flatMap, List.flatMap_def]
  | classConstant receiver name =>
    cases name with
    | computed m => exact absurd rfl h
    | literal name =>
      simp only [targets, answers, Node.shape, classConstantTargets_literal]
      split
      · exact classTargets_eq_answer r ctx receiver
      · cases r.members.classConstant ctx
            (.mk (.classConstant receiver (.literal name)) range) with
        | error e => rfl
        | ok d => rfl
  | constantRef name =>
    simp only [targets, answers, Node.shape, constantTargets]
    cases r.members.constant ctx (.mk (.constantRef name) range) with
    | error e => rfl
    | ok d => rfl
  | «variable» name => exact absurd rfl h
  | other => exact absurd rfl h

theorem records_of_failed_answer (mode : Mode) {e : LookupError} (h : .error e ∈ r.answers ctx n) :
    r.records mode ctx n = [] := by
  obtain ⟨f, hf⟩ := allOrFirstError_of_error_mem h
  rw [records, targets_eq_answers mode (List.ne_nil_of_mem h), hf]
  split <;> rfl

theorem records_of_targets {mode : Mode} (hallow : r.toggles.allow mode = true)
    {records : List Record} (h : r.targets mode ctx n = .ok records) :
    r.records mode ctx n = records := by
  rw [Resolver.records, if_pos hallow, h]

theorem targets_of_mem_records {mode : Mode} {a : Record} (h : a ∈ r.records mode ctx n) :
    ∃ records, r.targets mode ctx n = .ok records ∧ a ∈ records := by
  rw [Resolver.records] at h
  split at h
  · split at h
    · rename_i records htargets
      exact ⟨records, htargets, h⟩
    · cases h
  · cases h

theorem records_of_answers {mode : Mode} (hallow : r.toggles.allow mode = true)
    {as : List (List Record)} (has : as ≠ []) (h : r.answers ctx n = as.map .ok) :
    r.records mode ctx n = as.flatten := by
  have hasked : r.answers ctx n ≠ [] := by
    rw [h]
    simpa using has
  apply records_of_targets hallow
  rw [targets_eq_answers mode hasked, h, allOrFirstError_ok]
  rfl

/-! ## Runs -/

/-- Resolves nodes one after the other, each in its own context. -/
def resolveAll (r : Resolver) (req : Request) (calls : List (Context × Node)) : Request :=
  calls.foldl (fun req call => r.resolve call.1 call.2 req) req

/-- What a node adds to a fresh request. -/
def contribution (r : Resolver) (mode : Mode) (call : Context × Node) : List Record :=
  (r.resolve call.1 call.2 (Request.start mode)).records

theorem contribution_eq_records (r : Resolver) (mode : Mode) (call : Context × Node) :
    r.contribution mode call = r.records mode call.1 call.2 :=
  List.nil_append _

/-- One step of a run: what is there stays, and the contribution is put behind it. -/
theorem resolve_eq_append (r : Resolver) (call : Context × Node) (req : Request) :
    r.resolve call.1 call.2 req = req.append (r.contribution req.mode call) := by
  rw [contribution_eq_records]
  rfl

theorem resolveAll_eq_append (r : Resolver) (req : Request) (calls : List (Context × Node)) :
    r.resolveAll req calls = req.append (calls.flatMap (r.contribution req.mode)) := by
  induction calls generalizing req with
  | nil => rw [List.flatMap_nil, Request.append, List.append_nil, resolveAll, List.foldl_nil]
  | cons call calls ih =>
    rw [resolveAll, List.foldl_cons, ← resolveAll, ih, resolve_eq_append, List.flatMap_cons]
    simp only [Request.append, List.append_assoc]

/-- A request is only ever added to, node by node: a node adds what it adds to a fresh request of
the same mode. That is nothing as soon as one of its answers fails, wherever the failure stands
among them, and otherwise all that its answers stand for. -/
theorem resolveAll_atomic (r : Resolver) (req : Request) :
    (∀ calls, (r.resolveAll req calls).mode = req.mode ∧
      (r.resolveAll req calls).records =
        req.records ++ calls.flatMap (r.contribution req.mode)) ∧
    (∀ ctx n e, .error e ∈ r.answers ctx n →
      r.contribution req.mode (ctx, n) = [] ∧ r.resolve ctx n req = req) ∧
    ∀ ctx n as, r.toggles.allow req.mode = true → as ≠ [] → r.answers ctx n = as.map .ok →
      r.contribution req.mode (ctx, n) = as.flatten := by
  refine ⟨fun calls => ?_, fun ctx n e he => ?_, fun ctx n as hallow has h => ?_⟩
  · rw [resolveAll_eq_append]
    exact ⟨rfl, rfl⟩
  · have hnone : r.contribution req.mode (ctx, n) = [] := by
      rw [contribution_eq_records]
      exact records_of_failed_answer req.mode he
    refine ⟨hnone, ?_⟩
    rw [resolve_eq_append r (ctx, n) req, hnone, Request.append, List.append_nil]
  · rw [contribution_eq_records]
    exact records_of_answers hallow has h

/-! ## A run that is interrupted -/

namespace Interrupted

def functionAt (name : String) (line : UInt32) : FunctionDecl :=
  ⟨Name.ofText name, UnionType.empty, Location.atLine ⟨"file:///src/functions.php"⟩ line⟩

def opens : FunctionDecl := functionAt "open" 4

def closes : FunctionDecl := functionAt "close" 9

/-- A variable may be one of two functions; between them a name may be one that nobody knows. -/
def members : MemberOracle where
  property _ _ _ := .error (.undeclared "property")
  method _ _ _ _ := .error (.undeclared "method")
  classConstant _ _ := .error (.undeclared "constant")
  constant _ _ := .error (.undeclared "constant")
  functions _ callee :=
    match callee.shape with
    | .variable _ => [.ok opens, .ok closes]
    | _ => [.ok opens, .error (.notIndexed "\\ghost"), .ok closes]

def resolver : Resolver where
  types := ⟨fun _ _ => .error (.undeclared "type")⟩
  index := ⟨fun _ => false, fun _ => none⟩
  members := members
  toggles := Toggles.all

/-- `$either()` -/
def whole : Node := Node.call (Node.variableNamed "either")

/-- `any()` -/
def broken : Node := Node.call (Node.classRef "any")

def shown (d : FunctionDecl) : Record :=
  .declaration (.function d) true

/-- The request holds a record from before the run. -/
def request : Request :=
  ⟨.definition, [shown (functionAt "main" 1)]⟩

end Interrupted

open Interrupted in
/-- The broken call between two whole ones leaves no trace, not even of the functions it has. -/
theorem resolveAll_interrupted :
    .error (.notIndexed "\\ghost") ∈ resolver.answers Context.empty broken ∧
      resolver.answers Context.empty whole = [[shown opens], [shown closes]].map .ok ∧
      resolver.toggles.allow request.mode = true ∧
      (resolver.resolveAll request
        [(Context.empty, whole), (Context.empty, broken), (Context.empty, whole)]).records =
        [shown (functionAt "main" 1), shown opens, shown closes, shown opens, shown closes] := by
  obtain ⟨hrun, hfailed, hanswered⟩ := resolveAll_atomic resolver request
  have hmem : .error (.notIndexed "\\ghost") ∈ resolver.answers Context.empty broken :=
    List.mem_cons_of_mem _ List.mem_cons_self
  have hall : resolver.answers Context.empty whole = [[shown opens], [shown closes]].map .ok := rfl
  have hbroken := (hfailed Context.empty broken _ hmem).1
  have hwhole := hanswered Context.empty whole _ rfl (List.cons_ne_nil _ _) hall
  refine ⟨hmem, hall, rfl, ?_⟩
  rw [(hrun _).2]
  simp only [List.flatMap_cons, List.flatMap_nil, hbroken, hwhole]
  rfl

end Resolver

end GotoDefinition
