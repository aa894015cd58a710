/-!
# GotoDefinition.Json.Basic

JSON values as they were written.

Fields keep their order and are not merged. A text that stops being JSON is still a value: the
place where it stops is `malformed`, and everything around that place ends there. So a reader that
goes through a value from left to right meets a mistake of the text and a mistake of the contents in
the order in which they were written.

* `Json.isComplete` — the text was JSON to its end.
* `Json.isHeld` — a value that can be kept for later: every string denotes a text, every number is
  finite, and nesting stays within a limit.
-/

namespace GotoDefinition

inductive Json where
  | null
  | bool (b : Bool)
  /-- A number of digits alone, within 64 bits. -/
  | natural (n : Nat)
  /-- Any other number; the flag says whether it is finite as a binary64 number. -/
  | real (isFinite : Bool)
  /-- `none` is a string with one half of a surrogate pair, which denotes no text. -/
  | string (s : Option String)
  | array (items : List Json)
  | object (fields : List (Option String × Json))
  | malformed

namespace Json

/-- A string that denotes a text. -/
def str (s : String) : Json :=
  .string (some s)

/-- An object whose keys denote texts. -/
def obj (fields : List (String × Json)) : Json :=
  .object (fields.map fun (k, v) => (some k, v))

/-- A value or `null`. -/
def orNull : Option Json → Json
  | some v => v
  | none => .null

/-! ## What has been written -/

mutual

def isComplete : Json → Bool
  | .malformed => false
  | .array items => allComplete items
  | .object fields => allFieldsComplete fields
  | _ => true

def allComplete : List Json → Bool
  | [] => true
  | v :: vs => v.isComplete && allComplete vs

def allFieldsComplete : List (Option String × Json) → Bool
  | [] => true
  | (_, v) :: fields => v.isComplete && allFieldsComplete fields

end

mutual

/-- The limit is the number of levels of brackets that the value may have. -/
def isHeld : Nat → Json → Bool
  | _, .null => true
  | _, .bool _ => true
  | _, .natural _ => true
  | _, .real isFinite => isFinite
  | _, .string s => s.isSome
  | 0, .array _ => false
  | 0, .object _ => false
  | limit + 1, .array items => allHeld limit items
  | limit + 1, .object fields => allFieldsHeld limit fields
  | _, .malformed => false

def allHeld : Nat → List Json → Bool
  | _, [] => true
  | limit, v :: vs => v.isHeld limit && allHeld limit vs

def allFieldsHeld : Nat → List (Option String × Json) → Bool
  | _, [] => true
  | limit, (k, v) :: fields => k.isSome && v.isHeld limit && allFieldsHeld limit fields

end

end Json

end GotoDefinition
