import GotoDefinition.Url.Basic

/-!
# GotoDefinition.Location

Positions in a text, ranges between them, and ranges in files.
-/

namespace GotoDefinition

/-- Line and column, both counted from zero. -/
structure Position where
  line : UInt32
  character : UInt32
  deriving DecidableEq, Repr, Inhabited

structure Range where
  start : Position
  stop : Position
  deriving DecidableEq, Repr, Inhabited

/-- The empty range at the start of a text. -/
def Range.zero : Range :=
  ⟨⟨0, 0⟩, ⟨0, 0⟩⟩

structure Location where
  uri : Url
  range : Range
  deriving DecidableEq, Repr

/-- The empty range at the start of a line. -/
def Location.atLine (file : Url) (line : UInt32) : Location :=
  ⟨file, ⟨⟨line, 0⟩, ⟨line, 0⟩⟩⟩

end GotoDefinition
