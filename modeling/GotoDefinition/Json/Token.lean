import GotoDefinition.Decimal
import GotoDefinition.Json.Basic
import GotoDefinition.Text.Digits

/-!
# GotoDefinition.Json.Token

The tokens of a JSON text.

A text that holds something else ends with the token `bad`. Numbers keep no more than a reader can
ask for: the value of a number of digits, and of any other number whether it is finite.
-/

namespace GotoDefinition

namespace Json

inductive Token where
  | openBracket
  | closeBracket
  | openBrace
  | closeBrace
  | comma
  | colon
  /-- A value without parts. -/
  | scalar (v : Json)
  | text (s : Option String)
  | bad

/-! ## Strings -/

def isHighHalf (n : Nat) : Bool :=
  0xD800 ≤ n && n < 0xDC00

def isLowHalf (n : Nat) : Bool :=
  0xDC00 ≤ n && n < 0xE000

/-- Joins the halves of surrogate pairs; `none` when a half is left over. -/
def joinHalves : List Nat → Option (List Char)
  | [] => some []
  | [n] => if isHighHalf n || isLowHalf n then none else some [Char.ofNat n]
  | m :: n :: rest =>
    if isHighHalf m && isLowHalf n then
      (joinHalves rest).map (Char.ofNat (0x10000 + (m - 0xD800) * 0x400 + (n - 0xDC00)) :: ·)
    else if isHighHalf m || isLowHalf m then none
    else (joinHalves (n :: rest)).map (Char.ofNat m :: ·)

def simpleEscape? : Char → Option Nat
  | '"' => some 0x22
  | '\\' => some 0x5C
  | '/' => some 0x2F
  | 'b' => some 0x08
  | 'f' => some 0x0C
  | 'n' => some 0x0A
  | 'r' => some 0x0D
  | 't' => some 0x09
  | _ => none

def unicodeEscape? (a b c d : Char) : Option Nat :=
  match Text.hexValue? a, Text.hexValue? b, Text.hexValue? c, Text.hexValue? d with
  | some a, some b, some c, some d => some (((a * 16 + b) * 16 + c) * 16 + d)
  | _, _, _, _ => none

/-- The code units of a string up to its closing quote, last first, and what follows the quote. -/
def scanString (done : List Nat) : List Char → Option (List Nat × List Char)
  | [] => none
  | '"' :: rest => some (done, rest)
  | '\\' :: 'u' :: a :: b :: c :: d :: rest =>
    match unicodeEscape? a b c d with
    | some n => scanString (n :: done) rest
    | none => none
  | '\\' :: e :: rest =>
    match simpleEscape? e with
    | some n => scanString (n :: done) rest
    | none => none
  | c :: rest => if c.toNat < 0x20 || c == '\\' then none else scanString (c.toNat :: done) rest

theorem length_of_scanString {done units : List Nat} {cs rest : List Char}
    (h : scanString done cs = some (units, rest)) : rest.length < cs.length := by
  fun_induction scanString done cs with
  | case1 => simp at h
  | case2 done rest' =>
    simp only [Option.some.injEq, Prod.mk.injEq] at h
    simp [h.2]
  | case3 done a b c d rest' n hn ih =>
    have := ih h
    simp only [List.length_cons]
    omega
  | case4 => simp at h
  | case5 done e rest' hne n hn ih =>
    have := ih h
    simp only [List.length_cons]
    omega
  | case6 => simp at h
  | case7 => simp at h
  | case8 done c rest' h1 h2 h3 hc ih =>
    have := ih h
    simp only [List.length_cons]
    omega

/-! ## Numbers -/

def isNumberChar (c : Char) : Bool :=
  c.isDigit || c == '-' || c == '+' || c == '.' || c == 'e' || c == 'E'

/-- Digits without a zero in front of others. -/
def isPlainInteger : List Char → Bool
  | [] => false
  | ['0'] => true
  | '0' :: _ => false
  | ds => ds.all Char.isDigit

def isExponentMark (c : Char) : Bool :=
  c == 'e' || c == 'E'

/-- Digits as a number, and the digits that would take it beyond 64 bits. -/
def significand (n : Nat) : List Char → Nat × List Char
  | [] => (n, [])
  | d :: ds =>
    let next := n * 10 + (d.toNat - 48)
    if next < UInt64.size then significand next ds else (n, d :: ds)

/-- Whether a number is finite. It is read as a whole number of its first digits and a power of ten:
both are rounded, and their product once more. -/
def fits (whole fraction : List Char) (exponent : Int) : Bool :=
  let (n, beyond) := significand 0 whole
  let (n, unread) := significand n fraction
  let exponent := exponent + beyond.length - (fraction.length - unread.length : Nat)
  n == 0 || exponent ≤ 0 ||
    (exponent < 309 && (Decimal.nearest n 0).mul (Decimal.nearest 1 exponent) != .infinite)

/-- A number with a sign, a fraction or an exponent, or one beyond 64 bits. -/
def real? (cs : List Char) : Option Json :=
  let unsigned := match cs with | '-' :: rest => rest | rest => rest
  let mantissa := unsigned.takeWhile (!isExponentMark ·)
  let tail := unsigned.dropWhile (!isExponentMark ·)
  let whole := mantissa.takeWhile (· != '.')
  let fraction := (mantissa.dropWhile (· != '.')).drop 1
  let fractionOk := !mantissa.contains '.' || (!fraction.isEmpty && fraction.all Char.isDigit)
  match if tail.isEmpty then some 0 else Text.signedDecimal? (tail.drop 1) with
  | none => none
  | some e =>
    if isPlainInteger whole && fractionOk then
      some (.real (fits whole fraction e))
    else none

def numberToken (cs : List Char) : Token :=
  if isPlainInteger cs && Text.digitsValue cs < UInt64.size then
    .scalar (.natural (Text.digitsValue cs))
  else
    match real? cs with
    | some v => .scalar v
    | none => .bad

/-! ## Words -/

def wordToken (cs : List Char) : Token :=
  match String.ofList cs with
  | "null" => .scalar .null
  | "true" => .scalar (.bool true)
  | "false" => .scalar (.bool false)
  | _ => .bad

/-! ## Tokens of a text -/

def isSpace (c : Char) : Bool :=
  c == ' ' || c == '\t' || c == '\n' || c == '\r'

theorem length_dropWhile_lt (p : Char → Bool) (c : Char) (cs : List Char) :
    (cs.dropWhile p).length < (c :: cs).length := by
  have := (List.dropWhile_suffix (l := cs) p).length_le
  simp only [List.length_cons]
  omega

def tokens : List Char → List Token
  | [] => []
  | c :: cs =>
    if isSpace c then tokens cs
    else if c == '[' then .openBracket :: tokens cs
    else if c == ']' then .closeBracket :: tokens cs
    else if c == '\x7b' then .openBrace :: tokens cs
    else if c == '\x7d' then .closeBrace :: tokens cs
    else if c == ',' then .comma :: tokens cs
    else if c == ':' then .colon :: tokens cs
    else if c == '"' then
      match _h : scanString [] cs with
      | some (units, rest) => .text ((joinHalves units.reverse).map String.ofList) :: tokens rest
      | none => [.bad]
    else if isNumberChar c && c != '+' then
      numberToken (c :: cs.takeWhile isNumberChar) :: tokens (cs.dropWhile isNumberChar)
    else if c.isAlpha then
      wordToken (c :: cs.takeWhile Char.isAlpha) :: tokens (cs.dropWhile Char.isAlpha)
    else [.bad]
termination_by cs => cs.length
decreasing_by
  all_goals first
    | exact Nat.lt_succ_self _
    | exact Nat.lt_succ_of_lt (length_of_scanString _h)
    | exact length_dropWhile_lt _ c cs

end Json

end GotoDefinition
