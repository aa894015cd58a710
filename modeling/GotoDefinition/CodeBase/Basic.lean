import GotoDefinition.CodeBase.Index
import GotoDefinition.Oracle
import GotoDefinition.Snapshot

/-!
# GotoDefinition.CodeBase.Basic

A snapshot arranged for looking names up. Of several declarations of a name the first counts.
-/

namespace GotoDefinition

structure CodeBase where
  classes : Index fun e : ClassEntry => e.name.key
  functions : Index fun e : FunctionEntry => e.name.key
  constants : Index fun e : ConstantEntry => e.name.key

namespace CodeBase

def ofSnapshot (s : Snapshot) : CodeBase where
  classes := Index.ofList s.classes
  functions := Index.ofList s.functions
  constants := Index.ofList s.constants

def findClass? (cb : CodeBase) (c : ClassName) : Option ClassEntry :=
  cb.classes.find? c.key

def hasClass (cb : CodeBase) (c : ClassName) : Bool :=
  (cb.findClass? c).isSome

def findFunction? (cb : CodeBase) (f : FunctionName) : Option FunctionDecl :=
  (cb.functions.find? f.key).map FunctionEntry.decl

def findConstant? (cb : CodeBase) (c : ConstantName) : Option ConstantDecl :=
  (cb.constants.find? c.key).map ConstantEntry.decl

def index (cb : CodeBase) : SymbolIndex where
  hasClass := cb.hasClass
  findClass? := fun c => (cb.findClass? c).map ClassEntry.decl

/-! ## Classes and functions under their keys -/

theorem findClass?_congr {cb : CodeBase} {c d : ClassName} (h : c.key = d.key) :
    cb.findClass? c = cb.findClass? d := by
  rw [findClass?, findClass?, h]

theorem key_of_findClass? {cb : CodeBase} {c : ClassName} {e : ClassEntry}
    (h : cb.findClass? c = some e) : e.name.key = c.key := by
  have h' := Index.key_of_find? h
  exact h'

/-- An entry that is found is found under its own name. -/
theorem findClass?_name {cb : CodeBase} {c : ClassName} {e : ClassEntry}
    (h : cb.findClass? c = some e) : cb.findClass? e.name = some e := by
  rw [findClass?_congr (key_of_findClass? h)]
  exact h

theorem key_of_findFunction? {cb : CodeBase} {f : FunctionName} {d : FunctionDecl}
    (h : cb.findFunction? f = some d) : d.name.key = f.key := by
  obtain ⟨e, he, rfl⟩ := Option.map_eq_some_iff.mp h
  have h' := Index.key_of_find? he
  exact h'

end CodeBase

end GotoDefinition
