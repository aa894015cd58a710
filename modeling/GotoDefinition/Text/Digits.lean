/-!
# GotoDefinition.Text.Digits

Digits and the numbers that are written with them.
-/

namespace GotoDefinition

namespace Text

/-! ## Decimal digits -/

/-- The value of decimal digits. -/
def digitsValue (ds : List Char) : Nat :=
  ds.foldl (fun n c => n * 10 + (c.toNat - 48)) 0

/-- A number of one digit or more. -/
def decimal? (cs : List Char) : Option Nat :=
  if !cs.isEmpty && cs.all Char.isDigit then some (digitsValue cs) else none

/-- A number with a sign, which may be left out. -/
def signedDecimal? (cs : List Char) : Option Int :=
  match cs with
  | '-' :: ds => (decimal? ds).map fun n => -(n : Int)
  | '+' :: ds => (decimal? ds).map Int.ofNat
  | ds => (decimal? ds).map Int.ofNat

/-! ## Hexadecimal digits -/

def hexValue? (c : Char) : Option Nat :=
  if '0' ≤ c && c ≤ '9' then some (c.toNat - 48)
  else if 'a' ≤ c && c ≤ 'f' then some (c.toNat - 87)
  else if 'A' ≤ c && c ≤ 'F' then some (c.toNat - 55)
  else none

def hexNumber? (cs : List Char) : Option Nat :=
  cs.foldl (fun acc c =>
    match acc, hexValue? c with
    | some n, some d => some (n * 16 + d)
    | _, _ => none) (some 0)

end Text

end GotoDefinition
