import GotoDefinition.Name
import GotoDefinition.Ty.Native

/-!
# GotoDefinition.Ty.Basic

One alternative of a union type, its text and the reading of that text.

A text is a closure type when it is `Closure(` … `)` in any case and behind any number of `\`, a
native type when it is a keyword without `\`, and the name of a class otherwise.
-/

namespace GotoDefinition

inductive Ty where
  | native (t : NativeType)
  | instanceOf (c : ClassName)
  /-- A closure over the body of a known function. -/
  | closure (f : FunctionName)
  deriving DecidableEq

/-- A text that is no type, without the white space around it. -/
structure TypeError where
  text : String
  deriving DecidableEq, Repr

def TypeError.message (e : TypeError) : String :=
  "invalid type expression `" ++ e.text ++ "`"

namespace Ty

def isNative : Ty → Bool
  | .native _ => true
  | .instanceOf _ => false
  | .closure _ => false

/-- The class that every closure is an instance of. -/
def closureClass : ClassName :=
  Name.ofText "Closure"

/-- The class whose instances have the type; `none` for a native type. -/
def className? : Ty → Option ClassName
  | .native _ => none
  | .instanceOf c => some c
  | .closure _ => some closureClass

/-- Equal up to the case of names. -/
def same : Ty → Ty → Bool
  | .native s, .native t => s == t
  | .instanceOf c, .instanceOf d => c.same d
  | .closure f, .closure g => f.same g
  | _, _ => false

@[simp] theorem same_refl (t : Ty) : t.same t = true := by
  cases t <;> simp [same]

theorem same_comm (s t : Ty) : s.same t = t.same s := by
  cases s <;> cases t <;> simp [same, Name.same_comm, BEq.comm]

def text : Ty → String
  | .native t => t.word
  | .instanceOf c => c.text
  | .closure f => "\\Closure(" ++ f.text ++ ")"

/-! ## Reading -/

def closureOpening : List Char :=
  ['c', 'l', 'o', 's', 'u', 'r', 'e', '(']

/-- What follows `Closure(` in a text that starts so, in any case. -/
def afterClosureOpening? (cs : List Char) : Option (List Char) :=
  if (cs.take 8).map Char.toLower = closureOpening then some (cs.drop 8) else none

/-- What stands before a final `)`, unless that is white space alone. -/
def beforeClosing? (cs : List Char) : Option (List Char) :=
  if cs.getLast? = some ')' && !Text.isAllBlank cs.dropLast then some cs.dropLast else none

/-- Reads a text that has no white space around it. -/
def ofTrimmed (cs : List Char) : Except TypeError Ty :=
  match cs with
  | [] => .error ⟨""⟩
  | cs =>
    match afterClosureOpening? (Text.dropLeading '\\' cs) with
    | some rest =>
      match beforeClosing? rest with
      | some body => .ok (.closure (Name.ofText (String.ofList body)))
      | none => .error ⟨String.ofList cs⟩
    | none =>
      match if cs.contains '\\' then none else NativeType.ofWord? (String.ofList cs) with
      | some t => .ok (.native t)
      | none => .ok (.instanceOf (Name.ofText (String.ofList cs)))

def ofChars (cs : List Char) : Except TypeError Ty :=
  ofTrimmed (Text.trim cs)

def ofText (s : String) : Except TypeError Ty :=
  ofChars s.toList

end Ty

end GotoDefinition
