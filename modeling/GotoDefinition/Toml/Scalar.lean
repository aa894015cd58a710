import GotoDefinition.Text.Digits
import GotoDefinition.Text.Segments

/-!
# GotoDefinition.Toml.Scalar

The written forms of TOML numbers, dates and times.

The start of an unquoted value decides which form it has to take: digits before `-` or `:` start a
date or a time, digits and a point or an exponent make a float, any other digits an integer. Which
number is meant is not asked; an integer is not checked beyond its grouping.
-/

namespace GotoDefinition

namespace Toml

/-! ## Grouping -/

def isHexDigit (c : Char) : Bool :=
  (Text.hexValue? c).isSome

/-- Groups between underscores are not empty, and digits stand on both sides of an underscore. In
front of the first one a single character of any kind may stand. -/
def isGrouped (isDigit : Char → Bool) (cs : List Char) : Bool :=
  match Text.segments '_' cs with
  | first :: second :: rest =>
    let later := second :: rest
    !first.isEmpty && (first.length == 1 || first.getLast?.any isDigit) &&
      later.all (·.head?.any isDigit) && later.dropLast.all (·.getLast?.any isDigit)
  | _ => true

/-! ## Integers -/

/-- The digits of a number with a base; there may be none. -/
def isBased (isDigit : Char → Bool) (cs : List Char) : Bool :=
  cs.all (fun c => isDigit c || c == '_') && isGrouped isHexDigit cs

def isOctalDigit (c : Char) : Bool :=
  '0' ≤ c && c ≤ '7'

def isBinaryDigit (c : Char) : Bool :=
  c == '0' || c == '1'

/-! ## Floats -/

def isExponentMark (c : Char) : Bool :=
  c == 'e' || c == 'E'

def isDigitOrUnderscore (c : Char) : Bool :=
  c.isDigit || c == '_'

def countDigits (cs : List Char) : Nat :=
  cs.countP Char.isDigit

/-- Digits behind a point or an exponent mark. -/
def isDecimalPart (cs : List Char) : Bool :=
  cs.all isDigitOrUnderscore && countDigits cs != 0

/-- Digits in front of a point or an exponent mark, without a zero in front of others. -/
def isMantissa (cs : List Char) : Bool :=
  isDecimalPart cs && (countDigits cs == 1 || cs.head? != some '0')

def dropSign : List Char → List Char
  | '+' :: rest => rest
  | '-' :: rest => rest
  | cs => cs

/-- A float without its sign. -/
def isFloat (cs : List Char) : Bool :=
  let mantissa := cs.takeWhile (!isExponentMark ·)
  let whole := mantissa.takeWhile (· != '.')
  let fraction := (mantissa.dropWhile (· != '.')).drop 1
  let exponent := (cs.dropWhile (!isExponentMark ·)).drop 1
  isMantissa whole && (!mantissa.contains '.' || isDecimalPart fraction) &&
    (!cs.any isExponentMark || isDecimalPart (dropSign exponent))

/-! ## Dates and times -/

def isTwoDigits (cs : List Char) (least most : Nat) : Bool :=
  match cs with
  | [a, b] =>
    let n := (a.toNat - 48) * 10 + (b.toNat - 48)
    a.isDigit && b.isDigit && least ≤ n && n ≤ most
  | _ => false

def isLeapYear (year : Nat) : Bool :=
  year % 4 == 0 && (year % 100 != 0 || year % 400 == 0)

def daysInMonth (year month : Nat) : Nat :=
  if month == 2 then (if isLeapYear year then 29 else 28)
  else if [4, 6, 9, 11].contains month then 30
  else 31

/-- A day that its month has. -/
def isDate (cs : List Char) : Bool :=
  match Text.segments '-' cs with
  | [year, month, day] =>
    year.length == 4 && year.all Char.isDigit && isTwoDigits month 1 12 &&
      isTwoDigits day 1 (daysInMonth (Text.digitsValue year) (Text.digitsValue month))
  | _ => false

/-- Seconds may be left out. -/
def isTime (cs : List Char) : Bool :=
  match Text.segments ':' cs with
  | [hour, minute] => isTwoDigits hour 0 23 && isTwoDigits minute 0 59
  | [hour, minute, second] =>
    let whole := second.takeWhile (· != '.')
    let fraction := (second.dropWhile (· != '.')).drop 1
    isTwoDigits hour 0 23 && isTwoDigits minute 0 59 && isTwoDigits whole 0 60 &&
      (!second.contains '.' || (!fraction.isEmpty && fraction.all Char.isDigit))
  | _ => false

def isOffset : List Char → Bool
  | ['Z'] => true
  | ['z'] => true
  | '+' :: rest => rest.length == 5 && isTime rest
  | '-' :: rest => rest.length == 5 && isTime rest
  | _ => false

/-- A time of day, perhaps with its offset. -/
def isOffsetTime (cs : List Char) : Bool :=
  let isClock (c : Char) : Bool := c.isDigit || c == ':' || c == '.'
  isTime (cs.takeWhile isClock) &&
    ((cs.dropWhile isClock).isEmpty || isOffset (cs.dropWhile isClock))

def isDateTime (cs : List Char) : Bool :=
  isTime cs ||
    match cs.drop 10 with
    | [] => isDate cs
    | sep :: time =>
      isDate (cs.take 10) && (sep == 'T' || sep == 't' || sep == ' ') && isOffsetTime time

/-! ## Tokens -/

/-- A number, date or time that starts with a digit once its sign is dropped. -/
def isDecimal (token unsigned : List Char) : Bool :=
  let rest := unsigned.dropWhile Char.isDigit
  if rest.isEmpty then unsigned == ['0'] || unsigned.head? != some '0'
  else if rest.head?.any fun c => c == '-' || c == ':' then isDateTime token
  else if rest.contains ' ' then false
  else if rest.any fun c => c == '.' || isExponentMark c then
    isFloat unsigned && isGrouped Char.isDigit token
  else
    rest.head? == some '_' && unsigned.head? != some '0' && isGrouped isHexDigit token

def isScalar (token : List Char) : Bool :=
  match token, dropSign token with
  | '0' :: 'x' :: ds, _ => isBased isHexDigit ds
  | '0' :: 'o' :: ds, _ => isBased isOctalDigit ds
  | '0' :: 'b' :: ds, _ => isBased isBinaryDigit ds
  | _, unsigned =>
    if ["inf", "nan"].contains (String.ofList unsigned) then true
    else if unsigned.head?.any isDigitOrUnderscore then
      !(unsigned.head? == some '0' &&
        (unsigned.drop 1).head?.any fun c => ['x', 'o', 'b', 'd'].contains c.toLower) &&
        isDecimal token unsigned
    else false

/-- Characters that end an unquoted value. -/
def endsScalar (c : Char) : Bool :=
  ['=', ',', '[', ']', '\x7b', '\x7d', ' ', '\t', '#', '\r', '\n'].contains c

/-- The characters of a value; a blank may stand between a date and a time. -/
def takeScalar (cs : List Char) : List Char × List Char :=
  let token := cs.takeWhile (!endsScalar ·)
  match isDate token, cs.dropWhile (!endsScalar ·) with
  | true, ' ' :: c :: rest =>
    if c.isDigit then
      (token ++ ' ' :: (c :: rest).takeWhile (!endsScalar ·),
        (c :: rest).dropWhile (!endsScalar ·))
    else (token, ' ' :: c :: rest)
  | _, rest => (token, rest)

end Toml

end GotoDefinition
