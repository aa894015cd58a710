import GotoDefinition.Text.Segments
import GotoDefinition.Ty.Union

/-!
# GotoDefinition.Scope

The local variables of a function or file, in the order they were first added.

A variable is looked up by its name without the `$` in front of it. `Scope.add` puts a variable in
the place of the first one with its name, or at the end.
-/

namespace GotoDefinition

structure Variable where
  name : String
  type : UnionType
  deriving DecidableEq

/-- A variable whose name may be given with the `$` in front of it. -/
def Variable.named (name : String) (type : UnionType) : Variable :=
  ⟨Text.stripLeading '$' name, type⟩

structure Scope where
  entries : List Variable
  deriving DecidableEq

namespace Scope

def empty : Scope :=
  ⟨[]⟩

def find? (s : Scope) (name : String) : Option Variable :=
  s.entries.find? (·.name == Text.stripLeading '$' name)

def has (s : Scope) (name : String) : Bool :=
  (s.find? name).isSome

def replaceFirst (v : Variable) : List Variable → List Variable
  | [] => [v]
  | w :: ws => if w.name == v.name then v :: ws else w :: replaceFirst v ws

def add (s : Scope) (v : Variable) : Scope :=
  ⟨replaceFirst v s.entries⟩

end Scope

end GotoDefinition
