import GotoDefinition.Decimal
import GotoDefinition.LogFilter.Pattern
import GotoDefinition.Text.Digits
import GotoDefinition.Text.Segments

/-!
# GotoDefinition.LogFilter.Field

Fields of a span as a filter asks for them: by name, or by name and value. The form of a value
decides its kind; a text that has no other form is a pattern.
-/

namespace GotoDefinition

inductive FieldValue where
  | bool (b : Bool)
  | float (minus : Bool) (m : Decimal.Magnitude)
  | notANumber
  | natural (n : Nat)
  | negative (n : Nat)
  | pattern (text : String)
  deriving DecidableEq, Repr

namespace FieldValue

/-! ## Reading -/

/-- A number that fits in 64 bits. -/
def natural? (cs : List Char) : Option FieldValue :=
  let ds := match cs with | '+' :: rest => rest | rest => rest
  match Text.decimal? ds with
  | some n => if n < UInt64.size then some (.natural n) else none
  | none => none

def negative? (cs : List Char) : Option FieldValue :=
  match cs with
  | '-' :: ds =>
    match Text.decimal? ds with
    | some n => if n ≤ Nat.pow 2 63 then some (.negative n) else none
    | none => none
  | _ => none

/-- Digits that may be missing. -/
def someDigits? (cs : List Char) : Option Nat :=
  if cs.isEmpty then some 0 else Text.decimal? cs

/-- A number with a point or an exponent. Digits stand on one side of the point at least. -/
def magnitude? (cs : List Char) : Option Decimal.Magnitude :=
  let isMark (c : Char) : Bool := c == 'e' || c == 'E'
  let mantissa := cs.takeWhile (!isMark ·)
  let tail := cs.dropWhile (!isMark ·)
  let whole := mantissa.takeWhile (· != '.')
  let fraction := (mantissa.dropWhile (· != '.')).drop 1
  if whole.isEmpty && fraction.isEmpty then none
  else
    let exponent := if tail.isEmpty then some 0 else Text.signedDecimal? (tail.drop 1)
    match someDigits? whole, someDigits? fraction, exponent with
    | some a, some b, some e =>
      some (Decimal.nearest (a * Nat.pow 10 fraction.length + b) (e - fraction.length))
    | _, _, _ => none

def float? (cs : List Char) : Option FieldValue :=
  let unsigned := match cs with | '+' :: rest => rest | '-' :: rest => rest | rest => rest
  let minus := cs.head? == some '-'
  match String.ofList (unsigned.map Char.toLower) with
  | "inf" => some (.float minus .infinite)
  | "infinity" => some (.float minus .infinite)
  | "nan" => some .notANumber
  | _ => (magnitude? unsigned).map (.float minus)

def bool? (cs : List Char) : Option FieldValue :=
  if cs == "true".toList then some (.bool true)
  else if cs == "false".toList then some (.bool false)
  else none

def ofChars? (cs : List Char) : Option FieldValue :=
  match [bool?, natural?, negative?, float?].findSome? (· cs) with
  | some v => some v
  | none => if isPattern cs then some (.pattern (String.ofList cs)) else none

/-! ## Writing -/

/-- A number with its sign, which zero has not as a whole number. -/
def text : FieldValue → String
  | .bool true => "true"
  | .bool false => "false"
  | .float minus m => (if minus then "-" else "") ++ String.ofList m.text
  | .notANumber => "NaN"
  | .natural n => String.ofList (Nat.toDigits 10 n)
  | .negative 0 => "0"
  | .negative n => "-" ++ String.ofList (Nat.toDigits 10 n)
  | .pattern text => text

/-! ## Order -/

def kind : FieldValue → Nat
  | .bool _ => 0
  | .float _ _ => 1
  | .notANumber => 2
  | .natural _ => 3
  | .negative _ => 4
  | .pattern _ => 5

/-- Zero is one number, with or without a sign. -/
def compareFloats (a : Bool) (m : Decimal.Magnitude) (b : Bool) (n : Decimal.Magnitude) :
    Ordering :=
  match a && m != .zero, b && n != .zero with
  | false, false => m.compare n
  | true, true => n.compare m
  | true, false => .lt
  | false, true => .gt

/-- Values of one kind by their order, others by the order of the kinds. -/
def compare (v w : FieldValue) : Ordering :=
  match v, w with
  | .bool a, .bool b => Ord.compare a b
  | .float a m, .float b n => compareFloats a m b n
  | .natural m, .natural n => Ord.compare m n
  | .negative m, .negative n => Ord.compare n m
  | .pattern s, .pattern t => Ord.compare s t
  | v, w => Ord.compare v.kind w.kind

end FieldValue

structure FieldMatch where
  name : String
  value : Option FieldValue
  deriving DecidableEq, Repr

namespace FieldMatch

/-- A name, or a name and its value behind `=`; what stands behind a second `=` counts for
nothing. -/
def ofChars? (cs : List Char) : Option FieldMatch :=
  match Text.segments '=' cs with
  | name :: value :: _ =>
    (FieldValue.ofChars? value).map fun v => ⟨String.ofList name, some v⟩
  | [name] => some ⟨String.ofList name, none⟩
  | [] => none

def text (f : FieldMatch) : String :=
  match f.value with
  | some v => f.name ++ "=" ++ v.text
  | none => f.name

/-- Fields with a value are greater. -/
def compareValues (v w : Option FieldValue) : Ordering :=
  match v, w with
  | some v, some w => v.compare w
  | some _, none => .gt
  | none, some _ => .lt
  | none, none => .eq

def compare (f g : FieldMatch) : Ordering :=
  ((Ord.compare f.value.isSome g.value.isSome).then (Ord.compare f.name g.name)).then
    (compareValues f.value g.value)

end FieldMatch

end GotoDefinition
