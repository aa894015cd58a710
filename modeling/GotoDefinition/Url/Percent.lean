import GotoDefinition.Text.Digits

/-!
# GotoDefinition.Url.Percent

Percent escapes: which characters each part of a URL escapes, writing and reading of escapes.

The escape sets grow: `controls` ⊆ `fragment` ⊆ `path` ⊆ `userinfo`, and `controls` ⊆ `query` ⊆
`specialQuery`.
-/

namespace GotoDefinition

namespace Percent

/-! ## Escape sets -/

def controls (c : Char) : Bool :=
  c.toNat < 0x20 || 0x7E < c.toNat

def fragment (c : Char) : Bool :=
  controls c || [' ', '"', '<', '>', '\x60'].contains c

def path (c : Char) : Bool :=
  fragment c || ['#', '?', '\x7b', '\x7d'].contains c

def userinfo (c : Char) : Bool :=
  path c || ['/', ':', ';', '=', '@', '[', '\\', ']', '^', '|'].contains c

def query (c : Char) : Bool :=
  controls c || [' ', '"', '#', '<', '>'].contains c

/-- In the query of a URL with a well-known scheme the apostrophe is escaped too. -/
def specialQuery (c : Char) : Bool :=
  query c || c == '\''

/-! ## Writing -/

def hexDigit (n : Nat) : Char :=
  if n < 10 then Char.ofNat (48 + n) else Char.ofNat (55 + n)

def escapeByte (b : UInt8) : List Char :=
  ['%', hexDigit (b.toNat / 16), hexDigit (b.toNat % 16)]

/-- A character of the set as the escapes of its UTF-8 bytes. -/
def encodeChar (set : Char → Bool) (c : Char) : List Char :=
  if set c then (String.utf8EncodeChar c).flatMap escapeByte else [c]

def encode (set : Char → Bool) (cs : List Char) : List Char :=
  cs.flatMap (encodeChar set)

/-! ## Reading -/

/-- The bytes that a text stands for. A `%` without two hexadecimal digits stands for itself. -/
def decode : List Char → List UInt8
  | '%' :: a :: b :: rest =>
    match Text.hexValue? a, Text.hexValue? b with
    | some x, some y => UInt8.ofNat (16 * x + y) :: decode rest
    | _, _ => 0x25 :: decode (a :: b :: rest)
  | c :: rest => String.utf8EncodeChar c ++ decode rest
  | [] => []

end Percent

end GotoDefinition
