/-!
# GotoDefinition.Text.Letters

Text compared without regard to the case of ASCII letters. Letters outside ASCII are compared
as they are.
-/

namespace GotoDefinition

namespace Text

/-- The text with the letters `A` to `Z` written small. -/
def fold (s : String) : String :=
  String.ofList (s.toList.map Char.toLower)

/-- Equal up to the case of ASCII letters. -/
def alike (a b : String) : Bool :=
  fold a == fold b

@[simp] theorem alike_refl (a : String) : alike a a = true := by
  simp [alike]

theorem alike_iff {a b : String} : alike a b = true ↔ fold a = fold b := by
  simp [alike]

/-- Texts that are alike are like the same texts. -/
theorem alike_congr {a b : String} (h : alike a b = true) (s : String) : alike s a = alike s b := by
  rw [alike, alike, alike_iff.mp h]

end Text

end GotoDefinition
