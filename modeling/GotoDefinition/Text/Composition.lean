import GotoDefinition.Text.CombiningClass
import GotoDefinition.Text.Composite

/-!
# GotoDefinition.Text.Composition

One spelling for texts that mean the same: marks in the order of their classes, and letters
composed with their marks.

* `decompose` — letters taken apart from their marks.
* `reorder` — marks in the order of their classes; marks of one class keep their order.
* `compose` — letters put together with the marks behind them.
-/

namespace GotoDefinition

namespace Text

/-! ## Hangul -/

namespace Hangul

def firstLead : Nat := 0x1100
def firstVowel : Nat := 0x1161

/-- One before the first tail; a syllable without a tail counts as one with this. -/
def tailBase : Nat := 0x11A7
def firstSyllable : Nat := 0xAC00

def leads : Nat := 19
def vowels : Nat := 21
def tails : Nat := 28

def isSyllable (c : Char) : Bool :=
  firstSyllable ≤ c.toNat && c.toNat < firstSyllable + leads * vowels * tails

/-- A syllable as its lead, its vowel and perhaps its tail. -/
def decompose (c : Char) : List Char :=
  let n := c.toNat - firstSyllable
  let lead := Char.ofNat (firstLead + n / (vowels * tails))
  let vowel := Char.ofNat (firstVowel + n % (vowels * tails) / tails)
  if n % tails = 0 then [lead, vowel] else [lead, vowel, Char.ofNat (tailBase + n % tails)]

def compose? (a b : Char) : Option Char :=
  if firstLead ≤ a.toNat && a.toNat < firstLead + leads &&
      firstVowel ≤ b.toNat && b.toNat < firstVowel + vowels then
    some (Char.ofNat (firstSyllable +
      ((a.toNat - firstLead) * vowels + (b.toNat - firstVowel)) * tails))
  else if isSyllable a && (a.toNat - firstSyllable) % tails == 0 &&
      tailBase < b.toNat && b.toNat < tailBase + tails then
    some (Char.ofNat (a.toNat + (b.toNat - tailBase)))
  else none

end Hangul

/-! ## Taking apart -/

/-- The most marks that are taken off a letter one by one. -/
def decompositionDepth : Nat := 4

def decomposeTo : Nat → Char → List Char
  | 0, c => [c]
  | depth + 1, c =>
    match composites.find? (·.composed == c) with
    | some p => decomposeTo depth p.first ++ [p.second]
    | none => [c]

def decompose (c : Char) : List Char :=
  if Hangul.isSyllable c then Hangul.decompose c else decomposeTo decompositionDepth c

/-! ## Order of marks -/

/-- Puts a mark behind a text given from its end, in front of marks of a greater class. -/
def insertMark (c : Char) : List Char → List Char
  | [] => [c]
  | d :: rest =>
    if combiningClass c != 0 && combiningClass c < combiningClass d then d :: insertMark c rest
    else c :: d :: rest

def reorder (cs : List Char) : List Char :=
  (cs.foldl (fun done c => insertMark c done) []).reverse

/-! ## Putting together -/

def composite? (a b : Char) : Option Char :=
  match Hangul.compose? a b with
  | some c => some c
  | none => (composites.find? fun p => p.first == a && p.second == b).map (·.composed)

/-- A mark is kept from its letter by one between them that has its class or a greater one. -/
def isBlocked (marks : List Char) (c : Char) : Bool :=
  marks.getLast?.any fun m => combiningClass c ≤ combiningClass m

/-- Goes on behind a letter and the marks that have been left on it. -/
def composeBehind (letter : Char) (marks : List Char) : List Char → List Char
  | [] => letter :: marks
  | c :: rest =>
    match if isBlocked marks c then none else composite? letter c with
    | some composed => composeBehind composed marks rest
    | none =>
      if combiningClass c = 0 then letter :: marks ++ composeBehind c [] rest
      else composeBehind letter (marks ++ [c]) rest

/-- Marks in front of the first letter stay as they are. -/
def compose : List Char → List Char
  | [] => []
  | c :: rest => if combiningClass c = 0 then composeBehind c [] rest else c :: compose rest

/-- The composed spelling. Below the first mark every character is its own. -/
def composed (cs : List Char) : List Char :=
  if cs.all (·.toNat < 0x300) then cs else compose (reorder (cs.flatMap decompose))

end Text

end GotoDefinition
