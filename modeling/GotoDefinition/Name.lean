import GotoDefinition.Text.Blank
import GotoDefinition.Text.Letters
import GotoDefinition.Text.Segments

/-!
# GotoDefinition.Name

Canonical names of classes, functions and constants, and names of class members.

A canonical name starts with exactly one `\` and keeps the spelling it was written in. Names of
classes and functions are the same when they agree up to the case of ASCII letters; names of
constants are the same when they are equal.

* `isCanonical_canonical` — every text has a canonical form.
* `canonical_of_isCanonical` — the canonical form of a canonical text is that text.
* `Name.same_iff` — being the same name is having the same key.
-/

namespace GotoDefinition

/-! ## Canonical form -/

/-- One `\`, then a text that neither starts with `\` nor ends with white space. -/
def IsCanonical (cs : List Char) : Prop :=
  ∃ body, cs = '\\' :: body ∧ (∀ c, body.head? = some c → (c == '\\') = false) ∧
    ∀ c, body.getLast? = some c → Text.isBlank c = false

def canonical (cs : List Char) : List Char :=
  '\\' :: Text.dropLeading '\\' (Text.trim cs)

theorem isCanonical_canonical (cs : List Char) : IsCanonical (canonical cs) := by
  refine ⟨_, rfl, ?_, ?_⟩
  · intro c h
    have := List.head?_dropWhile_not (· == '\\') (Text.trim cs)
    rw [show (Text.trim cs).dropWhile (· == '\\') = Text.dropLeading '\\' (Text.trim cs) from rfl,
      h] at this
    simpa using this
  · intro c h
    obtain ⟨front, hfront⟩ := List.dropWhile_suffix (l := Text.trim cs) (· == '\\')
    apply Text.getLast?_trim cs
    rw [← hfront, List.getLast?_append]
    simp only [Text.dropLeading] at h
    simp [h]

theorem trim_of_isCanonical {cs : List Char} (h : IsCanonical cs) : Text.trim cs = cs := by
  obtain ⟨body, rfl, hhead, hlast⟩ := h
  apply Text.trim_eq_self
  · intro c hc
    cases hc
    decide
  · intro c hc
    cases body with
    | nil => cases hc; decide
    | cons d ds =>
      rw [List.getLast?_cons_cons] at hc
      exact hlast c hc

theorem canonical_of_isCanonical {cs : List Char} (h : IsCanonical cs) : canonical cs = cs := by
  rw [canonical, trim_of_isCanonical h]
  obtain ⟨body, rfl, hhead, hlast⟩ := h
  rw [Text.dropLeading_cons_self, Text.dropLeading, Text.dropWhile_eq_self hhead]

theorem mem_of_mem_canonical {c : Char} {cs : List Char} (hc : c ≠ '\\')
    (h : c ∈ canonical cs) : c ∈ cs := by
  rcases List.mem_cons.mp h with h | h
  · exact absurd h hc
  · exact (Text.trim_sublist cs).subset ((Text.dropLeading_sublist '\\' _).subset h)

/-! ## Names -/

inductive NameKind where
  | classLike
  | function
  | constant
  deriving DecidableEq, Repr

/-- Constants alone are told apart by case. -/
def NameKind.foldsCase : NameKind → Bool
  | .classLike => true
  | .function => true
  | .constant => false

/-- A canonical name in the spelling it was first written in. -/
structure Name (kind : NameKind) where
  text : String
  canonical : IsCanonical text.toList

abbrev ClassName := Name .classLike
abbrev FunctionName := Name .function
abbrev ConstantName := Name .constant

namespace Name

variable {kind : NameKind}

theorem ext_text {a b : Name kind} (h : a.text = b.text) : a = b := by
  cases a
  cases b
  cases h
  rfl

instance : DecidableEq (Name kind) := fun a b =>
  if h : a.text = b.text then .isTrue (ext_text h)
  else .isFalse fun e => h (congrArg Name.text e)

/-- The name that a text denotes. -/
def ofText (s : String) : Name kind where
  text := String.ofList (GotoDefinition.canonical s.toList)
  canonical := by
    rw [String.toList_ofList]
    exact isCanonical_canonical _

/-- A name denotes itself. -/
theorem ofText_text (n : Name kind) : ofText n.text = n := by
  apply ext_text
  simp only [ofText, canonical_of_isCanonical n.canonical, String.ofList_toList]

theorem toList_text_ofText (cs : List Char) :
    (ofText (String.ofList cs) : Name kind).text.toList = GotoDefinition.canonical cs := by
  simp only [ofText, String.toList_ofList]

theorem exists_toList_text (n : Name kind) : ∃ body, n.text.toList = '\\' :: body := by
  obtain ⟨body, h, _⟩ := n.canonical
  exact ⟨body, h⟩

/-- What follows the last `\`. -/
def short (n : Name kind) : String :=
  String.ofList (Text.lastSegment '\\' n.text.toList)

/-- What stands before the last `\`, without the first; `none` for a global name. -/
def namespace? (n : Name kind) : Option String :=
  (Text.beforeLast? '\\' (Text.dropLeading '\\' n.text.toList)).map String.ofList

/-- The text under which a name is looked up. -/
def key (n : Name kind) : String :=
  if kind.foldsCase then Text.fold n.text else n.text

/-- Whether two spellings name the same thing. -/
def same (a b : Name kind) : Bool :=
  if kind.foldsCase then Text.alike a.text b.text else a.text == b.text

theorem same_iff {a b : Name kind} : a.same b = true ↔ a.key = b.key := by
  unfold same key
  split
  · exact Text.alike_iff
  · exact beq_iff_eq

@[simp] theorem same_refl (a : Name kind) : a.same a = true :=
  same_iff.mpr rfl

theorem same_comm (a b : Name kind) : a.same b = b.same a := by
  rw [Bool.eq_iff_iff, same_iff, same_iff]
  exact eq_comm

end Name

/-! ## Members -/

inductive MemberKind where
  | method
  | property
  | constant
  deriving DecidableEq, Repr

/-- The name of a member, with the class that declares it. -/
structure MemberName (kind : MemberKind) where
  owner : ClassName
  name : String
  deriving DecidableEq

namespace MemberName

variable {kind : MemberKind}

def text (m : MemberName kind) : String :=
  match kind with
  | .property => m.owner.text ++ "::$" ++ m.name
  | .method => m.owner.text ++ "::" ++ m.name
  | .constant => m.owner.text ++ "::" ++ m.name

/-- Methods alone are named without regard to case. -/
def same (a b : MemberName kind) : Bool :=
  a.owner.same b.owner &&
    match kind with
    | .method => Text.alike a.name b.name
    | .property => a.name == b.name
    | .constant => a.name == b.name

end MemberName

end GotoDefinition
