import GotoDefinition.CodeBase.Basic

/-!
# GotoDefinition.CodeBase.Lineage

The classes whose members a class has, in the order in which they are searched.

A class comes before its traits, these before its parent and that before its interfaces, each with
everything it brings along. A class that has been met already is not entered again, so the walk
ends on cyclic hierarchies too: with every class entered the number of classes not yet met falls.
-/

namespace GotoDefinition

/-- The classes that an entry refers to, in search order. -/
def ClassEntry.bases (e : ClassEntry) (withInterfaces : Bool) : List ClassName :=
  e.traits ++ e.parent.toList ++ if withInterfaces then e.interfaces else []

namespace CodeBase

/-- How many classes have not been met. -/
def unmet (cb : CodeBase) (met : List String) : Nat :=
  (cb.classes.items.filter fun e => !met.contains e.name.key).length

theorem unmet_lt {cb : CodeBase} {met : List String} {key : String} {e : ClassEntry}
    (hfind : cb.classes.find? key = some e) (hmet : met.contains key = false) :
    cb.unmet (key :: met) < cb.unmet met := by
  have hmem : e ∈ cb.classes.items := Index.mem_of_find? hfind
  have hkey : e.name.key = key := by
    have h := Index.key_of_find? hfind
    exact h
  have hsub : cb.classes.items.filter (fun d => !(key :: met).contains d.name.key) =
      (cb.classes.items.filter fun d => !met.contains d.name.key).filter (·.name.key != key) := by
    rw [List.filter_filter]
    congr 1
    funext d
    by_cases h : d.name.key = key <;> simp [h]
  rw [unmet, unmet, hsub]
  apply List.length_filter_lt_length_iff_exists.mpr
  exact ⟨e, List.mem_filter.mpr ⟨hmem, by rw [hkey, hmet]; rfl⟩, by simp [hkey]⟩

/-- Walks through the pending classes, depth first. -/
def walk (cb : CodeBase) (withInterfaces : Bool) (met : List String) :
    List ClassName → List ClassEntry
  | [] => []
  | c :: pending =>
    if _hmet : met.contains c.key then walk cb withInterfaces met pending
    else
      match _hfind : cb.findClass? c with
      | none => walk cb withInterfaces met pending
      | some e => e :: walk cb withInterfaces (c.key :: met) (e.bases withInterfaces ++ pending)
termination_by pending => (cb.unmet met, pending.length)
decreasing_by
  · exact Prod.Lex.right _ (by simp)
  · exact Prod.Lex.right _ (by simp)
  · exact Prod.Lex.left _ _ (unmet_lt _hfind (by simpa using _hmet))

def lineage (cb : CodeBase) (withInterfaces : Bool) (c : ClassName) : List ClassEntry :=
  cb.walk withInterfaces [] [c]

/-- The first member that an entry of the lineage has. -/
def findMember? {α : Type} (cb : CodeBase) (withInterfaces : Bool) (c : ClassName)
    (pick : ClassEntry → Option α) : Option α :=
  (cb.lineage withInterfaces c).findSome? pick

/-- Interfaces declare no properties. -/
def findProperty? (cb : CodeBase) (c : ClassName) (name : String) (isStatic : Bool) :
    Option PropertyDecl :=
  cb.findMember? false c (·.findProperty? name isStatic)

def findMethod? (cb : CodeBase) (c : ClassName) (name : String) : Option MethodDecl :=
  cb.findMember? true c (·.findMethod? name)

def findClassConstant? (cb : CodeBase) (c : ClassName) (name : String) :
    Option ClassConstantDecl :=
  cb.findMember? true c (·.findConstant? name)

/-! ## The walk class by class -/

variable {cb : CodeBase} {withInterfaces : Bool}

theorem walk_again {met : List String} {c : ClassName} {pending : List ClassName}
    (hmet : met.contains c.key = true) :
    cb.walk withInterfaces met (c :: pending) = cb.walk withInterfaces met pending := by
  rw [walk, dif_pos hmet]

theorem walk_unknown {met : List String} {c : ClassName} {pending : List ClassName}
    (hmet : ¬met.contains c.key = true) (hfind : cb.findClass? c = none) :
    cb.walk withInterfaces met (c :: pending) = cb.walk withInterfaces met pending := by
  rw [walk, dif_neg hmet]
  split
  · rfl
  · rename_i hfind'
    rw [hfind] at hfind'
    cases hfind'

theorem walk_enter {met : List String} {c : ClassName} {pending : List ClassName} {e : ClassEntry}
    (hmet : ¬met.contains c.key = true) (hfind : cb.findClass? c = some e) :
    cb.walk withInterfaces met (c :: pending) =
      e :: cb.walk withInterfaces (c.key :: met) (e.bases withInterfaces ++ pending) := by
  rw [walk, dif_neg hmet]
  split
  · rename_i hfind'
    rw [hfind] at hfind'
    cases hfind'
  · rename_i hfind'
    rw [hfind] at hfind'
    cases hfind'
    rfl

end CodeBase

end GotoDefinition
