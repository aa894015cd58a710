import GotoDefinition.Text.Composition
import GotoDefinition.Url.Domain.Direction
import GotoDefinition.Url.Domain.Joining
import GotoDefinition.Url.Domain.Mapping
import GotoDefinition.Url.Punycode

/-!
# GotoDefinition.Url.Domain.Basic

The ASCII form of a domain name.

The characters of a name are mapped and composed; then each label is checked, and one that holds
characters outside ASCII is encoded. A label that is given encoded has to be what encoding a label
gives.
-/

namespace GotoDefinition

namespace Domain

/-- A label as it is shown and in its ASCII form. -/
structure Label where
  shown : List Char
  ascii : List Char

/-- What encoded labels start with. -/
def encodedMark : List Char :=
  ['x', 'n', '-', '-']

/-- The most characters of a label that is encoded, and of the code of one that is decoded. -/
def encodingLimit : Nat := 1000
def decodingLimit : Nat := 2000

def isAscii (cs : List Char) : Bool :=
  cs.all (·.toNat < 128)

/-- No label starts with a mark. -/
def isValid (label : List Char) : Bool :=
  label.head?.all (!Text.isMark ·) && joinersFit [] label

/-- An encoded label holds a character outside ASCII, and is mapped and composed. -/
def ofCode? (code : List Char) : Option Label :=
  if decodingLimit < code.length then none
  else
    match Punycode.decode? code with
    | none => none
    | some shown =>
      if !isAscii shown && shown.all isStable && Text.composed shown == shown && isValid shown then
        some ⟨shown, encodedMark ++ code⟩
      else none

def label? (cs : List Char) : Option Label :=
  if encodedMark.isPrefixOf cs then
    if isAscii cs then ofCode? (cs.drop encodedMark.length) else none
  else if !isValid cs then none
  else if isAscii cs then some ⟨cs, cs⟩
  else if encodingLimit < cs.length then none
  else some ⟨cs, encodedMark ++ Punycode.encode cs⟩

def ascii? (cs : List Char) : Option (List Char) :=
  match mapAll? cs with
  | none => none
  | some mapped =>
    match (Text.segments '.' (Text.composed mapped)).mapM label? with
    | none => none
    | some labels =>
      if directionsFit (labels.map (·.shown)) then
        some (['.'].intercalate (labels.map (·.ascii)))
      else none

end Domain

end GotoDefinition
