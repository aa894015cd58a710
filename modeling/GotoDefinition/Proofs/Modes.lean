import GotoDefinition.Proofs.Run
import Mathlib.Data.List.Basic

/-!
# GotoDefinition.Proofs.Modes

What the mode of a request changes.

Whether the definition of a thing or of its type is asked for, a node refers to the same
declarations; only a variable, which has a type but no declaration, is told apart. The mode counts
again when a request is shown: a declaration is then followed to its type or not. So a request for
definitions holds declarations alone, which are shown where they stand, and no index is asked.

* `targets_eq_of_not_variable` — the mode decides nothing about other nodes.
* `declared_of_mem_records`, `declared_of_mem_resolveAll` — one node, and a whole run, add nothing
  but declarations to a request for definitions.
* `locations_of_declared` — the index decides nothing about how these are shown.
* `mode_matters_for_variables_alone` — all of it for whole runs.
-/

namespace GotoDefinition

def Record.IsDeclaration (record : Record) : Prop :=
  ∃ d hasTarget, record = .declaration d hasTarget

theorem Toggles.allow_all (mode : Mode) : Toggles.all.allow mode = true := by
  cases mode <;> rfl

/-! ## What is shown -/

/-- A request for definitions shows a declaration at its own location. -/
theorem Record.IsDeclaration.locations {record : Record} (h : record.IsDeclaration)
    (i j : SymbolIndex) : record.locations i .definition = record.locations j .definition := by
  obtain ⟨d, hasTarget, rfl⟩ := h
  rfl

theorem Request.locations_of_declared {req : Request} (hmode : req.mode = .definition)
    (h : ∀ a ∈ req.records, a.IsDeclaration) (i j : SymbolIndex) :
    req.locations i = req.locations j := by
  rw [locations, locations, hmode]
  exact congrArg firstOccurrences (List.flatMap_congr fun a ha => (h a ha).locations i j)

namespace Resolver

/-! ## What is recorded -/

/-- A node refers to declarations, or cannot be resolved. -/
inductive Declared : Except LookupError (List Record) → Prop where
  | failed (e : LookupError) : Declared (.error e)
  | found {records : List Record} (h : ∀ a ∈ records, a.IsDeclaration) : Declared (.ok records)

theorem Declared.one (d : Declaration) (hasTarget : Bool) :
    Declared (.ok [.declaration d hasTarget]) :=
  .found (List.forall_mem_singleton.mpr ⟨d, hasTarget, rfl⟩)

theorem Declared.all {α : Type} (f : α → Declaration) (hasTarget : Bool) (as : List α) :
    Declared (.ok (as.map fun a => .declaration (f a) hasTarget)) := by
  refine .found ?_
  intro record hrecord
  obtain ⟨a, _, rfl⟩ := List.mem_map.mp hrecord
  exact ⟨f a, hasTarget, rfl⟩

variable (r : Resolver) (ctx : Context) (n : Node)

theorem declared_class : Declared (r.classTargets ctx n) := by
  rw [classTargets]
  split
  · exact .failed _
  · exact .all ..

theorem declared_property (isStatic : Bool) : Declared (r.propertyTargets ctx n isStatic) := by
  rw [propertyTargets]
  split
  · exact .failed _
  · exact .one ..

theorem declared_method (isStatic : Bool) (name : NameSlot) :
    Declared (r.methodTargets ctx n isStatic name) := by
  rw [methodTargets]
  split
  · exact .failed _
  · split
    · exact .failed _
    · exact .one ..

theorem declared_call (callee : Node) : Declared (r.callTargets ctx callee) := by
  rw [callTargets]
  split
  · exact .failed _
  · exact .all ..

theorem declared_classConstant (receiver : Node) (name : NameSlot) :
    Declared (r.classConstantTargets ctx n receiver name) := by
  rw [classConstantTargets]
  split
  · exact .failed _
  · split
    · exact r.declared_class ctx receiver
    · split
      · exact .failed _
      · exact .one ..

theorem declared_constant : Declared (r.constantTargets ctx n) := by
  rw [constantTargets]
  split
  · exact .failed _
  · exact .one ..

theorem declared_targets : Declared (r.targets .definition ctx n) := by
  rw [targets]
  cases n.shape with
  | classRef name => exact r.declared_class ctx n
  | property isStatic receiver name => exact r.declared_property ctx n isStatic
  | methodCall isStatic receiver name => exact r.declared_method ctx n isStatic name
  | call callee => exact r.declared_call ctx callee
  | classConstant receiver name => exact r.declared_classConstant ctx n receiver name
  | constantRef name => exact r.declared_constant ctx n
  | «variable» name => exact .found (List.forall_mem_nil _)
  | other => exact .found (List.forall_mem_nil _)

variable {r ctx n}

/-- One step of a run: a node adds declarations. -/
theorem declared_of_mem_records {a : Record} (h : a ∈ r.records .definition ctx n) :
    a.IsDeclaration := by
  obtain ⟨records, htargets, ha⟩ := targets_of_mem_records h
  have hdeclared := r.declared_targets ctx n
  rw [htargets] at hdeclared
  cases hdeclared with
  | found hfound => exact hfound a ha

theorem mode_resolveAll (r : Resolver) (req : Request) (calls : List (Context × Node)) :
    (r.resolveAll req calls).mode = req.mode := by
  rw [resolveAll_eq_append]
  rfl

theorem declared_of_mem_resolveAll {req : Request} {calls : List (Context × Node)}
    (hmode : req.mode = .definition) (hreq : ∀ a ∈ req.records, a.IsDeclaration) :
    ∀ a ∈ (r.resolveAll req calls).records, a.IsDeclaration := by
  intro a ha
  rw [resolveAll_eq_append, hmode] at ha
  rcases List.mem_append.mp ha with ha | ha
  · exact hreq a ha
  · obtain ⟨call, _, ha⟩ := List.mem_flatMap.mp ha
    rw [contribution_eq_records] at ha
    exact declared_of_mem_records ha

theorem targets_eq_of_not_variable (h : ∀ name, n.shape ≠ .variable name) (mode mode' : Mode) :
    r.targets mode ctx n = r.targets mode' ctx n := by
  rw [targets, targets]
  cases hshape : n.shape with
  | «variable» name => exact absurd hshape (h name)
  | _ => rfl

/-- Where requests of both kinds are answered, only a variable adds different records to them. -/
theorem records_eq_of_not_variable (hall : r.toggles = Toggles.all)
    (h : ∀ name, n.shape ≠ .variable name) (mode mode' : Mode) :
    r.records mode ctx n = r.records mode' ctx n := by
  rw [Resolver.records, Resolver.records, hall, Toggles.allow_all, Toggles.allow_all,
    targets_eq_of_not_variable h mode mode']

/-- When definitions and definitions of types are both answered, a run of nodes leaves no variable
on a request for definitions, and what this is shown as, with the response, is the same for every
index. A node other than a variable adds the same records to requests of either mode. -/
theorem mode_matters_for_variables_alone (r : Resolver) (hall : r.toggles = Toggles.all) :
    (∀ calls,
      let req := r.resolveAll (Request.start .definition) calls
      (∀ v, .variableType v ∉ req.records) ∧
        ∀ i j : SymbolIndex, req.locations i = req.locations j ∧ req.response i = req.response j) ∧
    ∀ ctx n, (∀ name, n.shape ≠ .variable name) → ∀ earlier earlier',
      ∃ added, r.resolve ctx n ⟨.definition, earlier⟩ = ⟨.definition, earlier ++ added⟩ ∧
        r.resolve ctx n ⟨.typeDefinition, earlier'⟩ = ⟨.typeDefinition, earlier' ++ added⟩ := by
  constructor
  · intro calls req
    have hmode : req.mode = .definition := r.mode_resolveAll (Request.start .definition) calls
    have hdeclared : ∀ a ∈ req.records, a.IsDeclaration :=
      declared_of_mem_resolveAll rfl nofun
    constructor
    · intro v hv
      obtain ⟨d, hasTarget, hv⟩ := hdeclared _ hv
      cases hv
    · intro i j
      have hlocations := Request.locations_of_declared hmode hdeclared i j
      rw [Request.response, Request.response, hlocations]
      exact ⟨rfl, rfl⟩
  · intro ctx n hn earlier earlier'
    refine ⟨r.records .definition ctx n, rfl, ?_⟩
    rw [records_eq_of_not_variable hall hn .definition .typeDefinition]
    rfl

open Interrupted in
/-- The functions that a variable may be are shown where they are declared, whatever is indexed, and
recorded alike for both modes. -/
theorem mode_matters_for_variables_alone_interrupted :
    resolver.toggles = Toggles.all ∧
    (∀ index : SymbolIndex,
      (resolver.resolveAll (Request.start .definition)
        [(Context.empty, broken), (Context.empty, whole)]).locations index =
        [opens.location, closes.location]) ∧
    (∀ name, whole.shape ≠ .variable name) ∧
    (resolver.resolve Context.empty whole (Request.start .typeDefinition)).records =
      [shown opens, shown closes] := by
  have hall : resolver.toggles = Toggles.all := rfl
  have hcall : ∀ name, whole.shape ≠ .variable name := nofun
  obtain ⟨hruns, hnodes⟩ := mode_matters_for_variables_alone resolver hall
  obtain ⟨added, hdefinition, htypeDefinition⟩ := hnodes Context.empty whole hcall [] []
  have hadded : [shown opens, shown closes] = added := congrArg Request.records hdefinition
  refine ⟨hall, fun index => ?_, hcall, ?_⟩
  · rw [((hruns _).2 index resolver.index).1]
    decide +kernel
  · rw [hadded]
    exact congrArg Request.records htypeDefinition

end Resolver

end GotoDefinition
