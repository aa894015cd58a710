import GotoDefinition.Text.Segments
import GotoDefinition.Url.Domain.Basic
import GotoDefinition.Url.Percent

/-!
# GotoDefinition.Url.Host

The host of a URL in its normal form.

A host in brackets is an address of eight 16-bit pieces; a host of a well-known scheme is a domain
name or, when its last label is a number, an address of four bytes; any other host is kept as
written.
-/

namespace GotoDefinition

namespace Host

/-! ## Numbers -/

def valueIn (base : Nat) (cs : List Char) : Option Nat :=
  cs.foldl (fun acc c =>
    match acc, Text.hexValue? c with
    | some n, some d => if d < base then some (n * base + d) else none
    | _, _ => none) (some 0)

def decimal (n : Nat) : List Char :=
  (Nat.toDigits 10 n)

/-! ## Four bytes -/

/-- `0x` starts a hexadecimal number and `0` an octal one. -/
def number? (cs : List Char) : Option Nat :=
  match cs with
  | [] => none
  | '0' :: 'x' :: ds => valueIn 16 ds
  | '0' :: 'X' :: ds => valueIn 16 ds
  | '0' :: d :: ds => valueIn 8 (d :: ds)
  | ds => valueIn 10 ds

/-- The labels of a domain name, without an empty last one. -/
def labels (cs : List Char) : List (List Char) :=
  let parts := Text.segments '.' cs
  if parts.getLast? = some [] then parts.dropLast else parts

def endsInNumber (cs : List Char) : Bool :=
  match (labels cs).getLast? with
  | none => false
  | some part => (!part.isEmpty && part.all Char.isDigit) || (number? part).isSome

def packBytes : List Nat → Nat → Option Nat
  | [], _ => none
  | [n], width => if n < Nat.pow 256 width then some n else none
  | n :: ns, width =>
    if n < 256 then (packBytes ns (width - 1)).map (n * Nat.pow 256 (width - 1) + ·) else none

/-- The last number fills the bytes that the ones before it leave. -/
def v4? (cs : List Char) : Option Nat :=
  let parts := labels cs
  if 4 < parts.length then none
  else (parts.mapM number?).bind (packBytes · 4)

def v4Text (n : Nat) : List Char :=
  let byte (i : Nat) : List Char := decimal (n / Nat.pow 256 i % 256)
  byte 3 ++ '.' :: byte 2 ++ '.' :: byte 1 ++ '.' :: byte 0

/-! ## Eight pieces -/

def byte? (cs : List Char) : Option Nat :=
  match cs with
  | [] => none
  | '0' :: _ :: _ => none
  | ds => (valueIn 10 ds).bind fun n => if n < 256 then some n else none

def piece? (cs : List Char) : Option Nat :=
  if cs.isEmpty || 4 < cs.length then none else valueIn 16 cs

/-- The pieces between colons; the last may be written as four bytes. -/
def pieces? (cs : List Char) : Option (List Nat) :=
  if cs.isEmpty then some []
  else
    let parts := Text.segments ':' cs
    match parts.getLast? with
    | none => none
    | some last =>
      if last.contains '.' then
        match parts.dropLast.mapM piece?, (Text.segments '.' last).mapM byte? with
        | some front, some [a, b, c, d] => some (front ++ [a * 256 + b, c * 256 + d])
        | _, _ => none
      else parts.mapM piece?

/-- The texts around the first `::`. -/
def aroundGap : List Char → Option (List Char × List Char)
  | ':' :: ':' :: rest => some ([], rest)
  | c :: rest => (aroundGap rest).map fun (left, right) => (c :: left, right)
  | [] => none

def v6? (cs : List Char) : Option (List Nat) :=
  match aroundGap cs with
  | none => (pieces? cs).bind fun ps => if ps.length = 8 then some ps else none
  | some (left, right) =>
    if left.contains '.' then none
    else
      match pieces? left, pieces? right with
      | some ls, some rs =>
        if ls.length + rs.length ≤ 7 then
          some (ls ++ List.replicate (8 - ls.length - rs.length) 0 ++ rs)
        else none
      | _, _ => none

def leadingZeros (ps : List Nat) : Nat :=
  (ps.takeWhile (· == 0)).length

/-- Start and length of the first longest run of zero pieces. -/
def longestGap : Nat → List Nat → Nat × Nat
  | _, [] => (0, 0)
  | i, p :: ps =>
    let here := leadingZeros (p :: ps)
    let later := longestGap (i + 1) ps
    if later.2 ≤ here then (i, here) else later

def joinPieces (ps : List Nat) : List Char :=
  [':'].intercalate (ps.map (Nat.toDigits 16))

/-- Of the runs of at least two zero pieces the first longest is written `::`. -/
def v6Text (ps : List Nat) : List Char :=
  let gap := longestGap 0 ps
  if gap.2 < 2 then joinPieces ps
  else joinPieces (ps.take gap.1) ++ ':' :: ':' :: joinPieces (ps.drop (gap.1 + gap.2))

def bracketed? (cs : List Char) : Option (List Char) :=
  if cs.getLast? = some ']' then
    (v6? cs.dropLast).map fun ps => '[' :: v6Text ps ++ [']']
  else none

/-! ## Domain names -/

/-- Characters that no host may hold. -/
def isReserved (c : Char) : Bool :=
  ['\x00', ' ', '#', '/', ':', '<', '>', '?', '@', '[', '\\', ']', '^', '|'].contains c

/-- Characters that a domain name may not hold. -/
def isForbidden (c : Char) : Bool :=
  isReserved c || c == '%' || c.toNat < 0x20 || c.toNat == 0x7F

/-- A domain name whose last label is a number is an address. -/
def domain? (cs : List Char) : Option (List Char) :=
  match String.fromUTF8? ⟨(Percent.decode cs).toArray⟩ with
  | none => none
  | some text =>
    match Domain.ascii? text.toList with
    | none => none
    | some ascii =>
      if ascii.isEmpty || ascii.any isForbidden then none
      else if endsInNumber ascii then (v4? ascii).map v4Text
      else some ascii

/-! ## Hosts -/

/-- The host of a URL with a well-known scheme. -/
def special? : List Char → Option (List Char)
  | '[' :: rest => bracketed? rest
  | cs => domain? cs

/-- The host of any other URL. -/
def opaqueHost? : List Char → Option (List Char)
  | '[' :: rest => bracketed? rest
  | cs =>
    if cs.any isReserved then none else some (Percent.encode Percent.controls cs)

end Host

end GotoDefinition
