/-!
# GotoDefinition.Decimal

Decimal numbers and the binary numbers that stand for them.

* `nearest` — the binary number that is nearest to a decimal one.
* `shortest` — the fewest digits of which a binary number is the nearest one, and of several such
  numbers the closest.
* `layout` — a decimal number without an exponent.
-/

namespace GotoDefinition

namespace Decimal

/-- A number without its sign, with a significand of 53 bits. -/
inductive Magnitude where
  /-- Significand times a power of two. -/
  | finite (significand : Nat) (exponent : Int)
  | infinite
  deriving DecidableEq, Repr

namespace Magnitude

def zero : Magnitude :=
  .finite 0 (-1074)

/-- The order of the values. -/
def compare : Magnitude → Magnitude → Ordering
  | .infinite, .infinite => .eq
  | .infinite, .finite _ _ => .gt
  | .finite _ _, .infinite => .lt
  | .finite s e, .finite t f =>
    Ord.compare (s * Nat.pow 2 (e - f).toNat) (t * Nat.pow 2 (f - e).toNat)

end Magnitude

/-! ## Reading -/

/-- A quotient rounded to the nearest number, from the middle to the even one. -/
def roundQuotient (n d : Nat) : Nat :=
  let q := n / d
  match Ord.compare (2 * (n % d)) d with
  | .lt => q
  | .gt => q + 1
  | .eq => if q % 2 = 0 then q else q + 1

/-- A quotient of positive numbers as a significand with the given power of two. -/
def significandAt (n d : Nat) (exponent : Int) : Nat :=
  roundQuotient (n * Nat.pow 2 (-exponent).toNat) (d * Nat.pow 2 exponent.toNat)

/-- The power of two that leaves 53 bits for the significand, as far as powers go. -/
def exponentFor (n d : Nat) : Int :=
  let top : Int := (n.log2 : Int) - (d.log2 : Int)
  let isBelow : Bool := n * Nat.pow 2 (-top).toNat < d * Nat.pow 2 top.toNat
  max ((if isBelow then top - 1 else top) - 52) (-1074)

/-- The number that is nearest to a quotient of positive numbers. -/
def ofQuotient (n d : Nat) : Magnitude :=
  let e := exponentFor n d
  let s := significandAt n d e
  let (s, e) := if s = Nat.pow 2 53 then (Nat.pow 2 52, e + 1) else (s, e)
  if 971 < e then .infinite else .finite s e

/-- A product, rounded. -/
def Magnitude.mul : Magnitude → Magnitude → Magnitude
  | .finite s e, .finite t f =>
    if s = 0 || t = 0 then .zero
    else ofQuotient (s * t * Nat.pow 2 (e + f).toNat) (Nat.pow 2 (-(e + f)).toNat)
  | _, _ => .infinite

/-- Decimal numbers with this many places or more on one side of the point are out of reach. -/
def reach : Nat := 400

/-- The binary number for `digits` times a power of ten. -/
def nearest (digits : Nat) (exponent : Int) : Magnitude :=
  let places : Int := (Nat.toDigits 10 digits).length + exponent
  if digits = 0 || places < -reach then .zero
  else if reach < places then .infinite
  else ofQuotient (digits * Nat.pow 10 exponent.toNat) (Nat.pow 10 (-exponent).toNat)

/-! ## Writing -/

/-- The least power of ten that is above `significand` times a power of two. -/
def scale (s : Nat) (e : Int) : Int :=
  let n := s * Nat.pow 2 e.toNat
  let d := Nat.pow 2 (-e).toNat
  let isAbove (k : Int) : Bool := n * Nat.pow 10 (-k).toNat < d * Nat.pow 10 k.toNat
  let least := ((List.range 700).find? fun (i : Nat) => isAbove ((i : Int) - 340)).getD 0
  (least : Int) - 340

/-- Without a zero at its end. -/
def withoutZero (digits : Nat) (exponent : Int) : Nat × Int :=
  if digits % 10 = 0 then (digits / 10, exponent + 1) else (digits, exponent)

/-- The closest of the numbers with a count of digits, if it stands for the binary number. -/
def withDigits? (s : Nat) (e k : Int) (count : Nat) : Option (Nat × Int) :=
  let g := k - count
  let n := s * Nat.pow 2 e.toNat * Nat.pow 10 (-g).toNat
  let d := Nat.pow 2 (-e).toNat * Nat.pow 10 g.toNat
  let low := n / d
  let isRead (m : Nat) : Bool := nearest m g == .finite s e
  match isRead low, isRead (low + 1) with
  | true, true => some (if 2 * (n % d) < d then low else low + 1, g)
  | true, false => some (low, g)
  | false, true => some (low + 1, g)
  | false, false => none

/-- Digits and a power of ten. Seventeen digits are enough for every number; a zero at the end is
left only where one digit has been rounded up to ten. -/
def shortest (s : Nat) (e : Int) : Nat × Int :=
  if s = 0 then (0, 0)
  else
    match (List.range 17).findSome? fun i => withDigits? s e (scale s e) (i + 1) with
    | some (digits, exponent) => withoutZero digits exponent
    | none => (0, 0)

/-- A number without an exponent; zeros at its end stand in front of the point only. -/
def layout (digits : Nat) (exponent : Int) : List Char :=
  let text := Nat.toDigits 10 digits
  if 0 ≤ exponent then
    if digits = 0 then text else text ++ List.replicate exponent.toNat '0'
  else
    let places := (-exponent).toNat
    let padded := List.replicate (places + 1 - text.length) '0' ++ text
    padded.take (padded.length - places) ++ '.' :: padded.drop (padded.length - places)

def Magnitude.text : Magnitude → List Char
  | .infinite => ['i', 'n', 'f']
  | .finite s e => layout (shortest s e).1 (shortest s e).2

end Decimal

end GotoDefinition
