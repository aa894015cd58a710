/-!
# GotoDefinition.Text.Blank

White space as the Unicode property `White_Space` has it, and trimming by it.

* `head?_trim` / `getLast?_trim` — a trimmed text neither starts nor ends with white space.
* `trim_eq_self` — a text that neither starts nor ends with white space is left as it is.
* `trim_trim`, `trim_sublist` — trimming once is enough, and adds nothing.
-/

namespace GotoDefinition

namespace Text

/-- The 25 characters with the Unicode property `White_Space`. -/
def isBlank (c : Char) : Bool :=
  let n := c.toNat
  (0x9 ≤ n && n ≤ 0xD) || n == 0x20 || n == 0x85 || n == 0xA0 || n == 0x1680 ||
    (0x2000 ≤ n && n ≤ 0x200A) || n == 0x2028 || n == 0x2029 || n == 0x202F ||
    n == 0x205F || n == 0x3000

def trimLeft (cs : List Char) : List Char :=
  cs.dropWhile isBlank

def trimRight (cs : List Char) : List Char :=
  (cs.reverse.dropWhile isBlank).reverse

def trim (cs : List Char) : List Char :=
  trimRight (trimLeft cs)

/-- A text of white space alone. -/
def isAllBlank (cs : List Char) : Bool :=
  cs.all isBlank

/-! ## Ends of a trimmed text -/

theorem getLast?_trimRight (cs : List Char) :
    ∀ c, (trimRight cs).getLast? = some c → isBlank c = false := by
  intro c h
  rw [trimRight, List.getLast?_reverse] at h
  have := List.head?_dropWhile_not isBlank cs.reverse
  rw [h] at this
  simpa using this

theorem trimRight_prefix_of (cs : List Char) : trimRight cs <+: cs := by
  have h := List.dropWhile_suffix (l := cs.reverse) isBlank
  have := List.reverse_prefix.mpr h
  simpa [trimRight] using this

theorem getLast?_trim (cs : List Char) :
    ∀ c, (trim cs).getLast? = some c → isBlank c = false :=
  getLast?_trimRight _

theorem head?_trim (cs : List Char) :
    ∀ c, (trim cs).head? = some c → isBlank c = false := by
  intro c h
  obtain ⟨tail, htail⟩ := trimRight_prefix_of (trimLeft cs)
  have hleft : (trimLeft cs).head? = some c := by
    rw [← htail, List.head?_append]
    simp only [trim] at h
    simp [h]
  have := List.head?_dropWhile_not isBlank cs
  rw [show cs.dropWhile isBlank = trimLeft cs from rfl, hleft] at this
  simpa using this

theorem dropWhile_eq_self {p : Char → Bool} {cs : List Char}
    (h : ∀ c, cs.head? = some c → p c = false) : cs.dropWhile p = cs := by
  cases cs with
  | nil => rfl
  | cons c cs => simp [h c rfl]

theorem trim_eq_self {cs : List Char}
    (hhead : ∀ c, cs.head? = some c → isBlank c = false)
    (hlast : ∀ c, cs.getLast? = some c → isBlank c = false) : trim cs = cs := by
  rw [trim, trimLeft, dropWhile_eq_self hhead, trimRight, dropWhile_eq_self, List.reverse_reverse]
  intro c h
  exact hlast c (by rwa [List.head?_reverse] at h)

theorem trim_trim (cs : List Char) : trim (trim cs) = trim cs :=
  trim_eq_self (head?_trim cs) (getLast?_trim cs)

theorem trim_sublist (cs : List Char) : (trim cs).Sublist cs :=
  (trimRight_prefix_of _).sublist.trans (List.dropWhile_sublist isBlank)

end Text

end GotoDefinition
