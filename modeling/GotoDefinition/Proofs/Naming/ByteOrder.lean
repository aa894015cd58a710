import GotoDefinition.Text.Letters

/-!
# GotoDefinition.Proofs.Naming.ByteOrder

Texts are ordered as their bytes in UTF-8 are.

A character of a greater code has greater bytes at the first place where the bytes of the two
differ, whether they have the same number of bytes or not. No character has bytes that the bytes of
another start with. So the first difference between two texts is also the first between their bytes.

* `DiffersBelow` — lists of bytes that differ somewhere, and first by a smaller byte.
* `differsBelow_encode` — the bytes of two characters.
* `bytes_lt_iff`, `bytes_le_iff` — the order of texts.
-/

namespace GotoDefinition

namespace Text

/-- The bytes of a text in UTF-8. -/
def bytes (s : String) : List UInt8 :=
  s.toUTF8.data.toList

theorem bytes_eq_flatMap (s : String) : bytes s = s.toList.flatMap String.utf8EncodeChar := by
  rw [bytes, String.toUTF8_eq_toByteArray, ← String.utf8Encode_toList, List.utf8Encode,
    List.data_toByteArray]

/-! ## The first difference -/

/-- Where the two lists differ for the first time, the first has the smaller byte. -/
inductive DiffersBelow : List UInt8 → List UInt8 → Prop where
  | here {b c : UInt8} (h : b < c) (bs cs : List UInt8) : DiffersBelow (b :: bs) (c :: cs)
  | later (b : UInt8) {bs cs : List UInt8} (h : DiffersBelow bs cs) :
      DiffersBelow (b :: bs) (b :: cs)

theorem DiffersBelow.append_lt {bs cs : List UInt8} (h : DiffersBelow bs cs)
    (bs' cs' : List UInt8) : bs ++ bs' < cs ++ cs' := by
  induction h with
  | here h bs cs => exact List.cons_lt_cons_iff.mpr (.inl h)
  | later b _ ih => exact List.cons_lt_cons_iff.mpr (.inr ⟨rfl, ih⟩)

theorem DiffersBelow.of_lt {m n : Nat} (hmn : m < n) (hn : n < 256) (bs cs : List UInt8) :
    DiffersBelow (UInt8.ofNat m :: bs) (UInt8.ofNat n :: cs) := by
  refine .here ?_ bs cs
  rw [UInt8.lt_iff_toNat_lt, UInt8.toNat_ofNat', UInt8.toNat_ofNat', Nat.mod_eq_of_lt hn,
    Nat.mod_eq_of_lt (Nat.lt_trans hmn hn)]
  exact hmn

theorem DiffersBelow.of_le {m n : Nat} (hmn : m ≤ n) (hn : n < 256) {bs cs : List UInt8}
    (h : m = n → DiffersBelow bs cs) :
    DiffersBelow (UInt8.ofNat m :: bs) (UInt8.ofNat n :: cs) := by
  rcases Nat.lt_or_eq_of_le hmn with hlt | heq
  · exact .of_lt hlt hn bs cs
  · rw [heq]
    exact .later _ (h heq)

/-! ## Characters -/

theorem toNat_lt_bound (c : Char) : c.val.toNat < 1114112 := by
  rcases c.valid with h | ⟨_, h⟩
  · exact Nat.lt_trans h (by decide)
  · exact h

/-- The first byte is the greater, the more bytes there are, and each byte behind it has six bits of
the code, the upper ones first. -/
theorem differsBelow_encode {c d : Char} (h : c < d) :
    DiffersBelow (String.utf8EncodeChar c) (String.utf8EncodeChar d) := by
  have hcd : c.val.toNat < d.val.toNat := UInt32.lt_iff_toNat_lt.mp h
  have hd : d.val.toNat < 1114112 := toNat_lt_bound d
  rw [String.utf8EncodeChar.eq_def, String.utf8EncodeChar.eq_def]
  dsimp only
  generalize c.val.toNat = m at hcd ⊢
  generalize d.val.toNat = n at hcd hd ⊢
  -- In each case the characters with as many bytes come first, then those with more.
  by_cases h1 : m ≤ 127
  · rw [if_pos h1]
    split
    · exact .of_lt hcd (by omega) _ _
    · split
      · exact .of_lt (by omega) (by omega) _ _
      · split <;> exact .of_lt (by omega) (by omega) _ _
  rw [if_neg h1, if_neg (by omega : ¬n ≤ 127)]
  by_cases h2 : m ≤ 2047
  · rw [if_pos h2]
    split
    · exact .of_le (by omega) (by omega) fun _ => .of_lt (by omega) (by omega) _ _
    · split <;> exact .of_lt (by omega) (by omega) _ _
  rw [if_neg h2, if_neg (by omega : ¬n ≤ 2047)]
  by_cases h3 : m ≤ 65535
  · rw [if_pos h3]
    split
    · refine .of_le (by omega) (by omega) fun _ => .of_le (by omega) (by omega) fun _ => ?_
      exact .of_lt (by omega) (by omega) _ _
    · exact .of_lt (by omega) (by omega) _ _
  rw [if_neg h3, if_neg (by omega : ¬n ≤ 65535)]
  refine .of_le (by omega) (by omega) fun _ => .of_le (by omega) (by omega) fun _ => ?_
  exact .of_le (by omega) (by omega) fun _ => .of_lt (by omega) (by omega) _ _

/-! ## Texts -/

theorem flatMap_encode_lt {cs ds : List Char} (h : cs < ds) :
    cs.flatMap String.utf8EncodeChar < ds.flatMap String.utf8EncodeChar := by
  induction h with
  | @nil d ds =>
    rw [List.flatMap_nil, List.flatMap_cons]
    cases hd : String.utf8EncodeChar d with
    | nil => exact absurd hd String.utf8EncodeChar_ne_nil
    | cons b bs => exact List.nil_lt_cons _ _
  | cons _ ih =>
    rw [List.flatMap_cons, List.flatMap_cons]
    exact List.append_left_lt ih
  | rel h =>
    rw [List.flatMap_cons, List.flatMap_cons]
    exact (differsBelow_encode h).append_lt _ _

theorem bytes_lt {s t : String} (h : s < t) : bytes s < bytes t := by
  rw [bytes_eq_flatMap, bytes_eq_flatMap]
  exact flatMap_encode_lt (String.lt_iff.mp h)

theorem bytes_lt_iff {s t : String} : bytes s < bytes t ↔ s < t := by
  refine ⟨fun h => ?_, bytes_lt⟩
  by_cases hst : s < t
  · exact hst
  · by_cases hts : t < s
    · exact absurd h (List.lt_asymm (bytes_lt hts))
    · have heq : s = t := String.le_antisymm (String.not_lt.mp hts) (String.not_lt.mp hst)
      rw [heq] at h
      exact absurd h (List.lt_irrefl _)

theorem bytes_le_iff {s t : String} : bytes s ≤ bytes t ↔ s ≤ t := by
  rw [← List.not_lt, ← String.not_lt, bytes_lt_iff]

end Text

end GotoDefinition
