import GotoDefinition.Text.Digits
import GotoDefinition.Text.Segments

/-!
# GotoDefinition.Text.Ranges

Sets of characters, written as the ranges of their numbers.
-/

namespace GotoDefinition

namespace Text

/-- What stands between blanks and line ends. -/
def words (text : String) : List (List Char) :=
  (segments ' ' (text.toList.map fun c => if c == '\n' then ' ' else c)).filter (!·.isEmpty)

end Text

structure CharRange where
  first : Nat
  last : Nat
  deriving DecidableEq, Repr

namespace CharRange

def has (r : CharRange) (c : Char) : Bool :=
  r.first ≤ c.toNat && c.toNat ≤ r.last

/-- `41-5A` is a range, and `AA` a single character. -/
def ofWord? (word : List Char) : Option CharRange :=
  match (Text.segments '-' word).mapM Text.hexNumber? with
  | some [n] => some ⟨n, n⟩
  | some [first, last] => some ⟨first, last⟩
  | _ => none

/-- The ranges that are written in a text. -/
def listOf (text : String) : List CharRange :=
  (Text.words text).filterMap ofWord?

def anyHas (rs : List CharRange) (c : Char) : Bool :=
  rs.any (·.has c)

end CharRange

end GotoDefinition
