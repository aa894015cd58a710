import GotoDefinition.Json.Print
import GotoDefinition.Json.Text
import Mathlib.Data.List.Basic

/-!
# GotoDefinition.Proofs.RoundTrip.Tokens

The tokens of a printed text.

* `tokens_quote` — a quoted text is one token, the text itself.
* `tokens_number` — the digits of a number within 64 bits are one token, if what follows does not
  carry the number on.
* `tokens_word` — so are the letters of a word.
-/

namespace GotoDefinition

namespace Json

/-! ## Brackets and separators -/

theorem tokens_openBracket (cs : List Char) : tokens ('[' :: cs) = .openBracket :: tokens cs := by
  rw [tokens]
  rfl

theorem tokens_closeBracket (cs : List Char) : tokens (']' :: cs) = .closeBracket :: tokens cs := by
  rw [tokens]
  rfl

theorem tokens_openBrace (cs : List Char) : tokens ('\x7b' :: cs) = .openBrace :: tokens cs := by
  rw [tokens]
  rfl

theorem tokens_closeBrace (cs : List Char) : tokens ('\x7d' :: cs) = .closeBrace :: tokens cs := by
  rw [tokens]
  rfl

theorem tokens_comma (cs : List Char) : tokens (',' :: cs) = .comma :: tokens cs := by
  rw [tokens]
  rfl

theorem tokens_colon (cs : List Char) : tokens (':' :: cs) = .colon :: tokens cs := by
  rw [tokens]
  rfl

/-! ## Quoted texts -/

theorem hexValue?_hexDigit : ∀ n < 16, Text.hexValue? (hexDigit n) = some n := by
  decide +kernel

/-- However a character is written, it is scanned as itself. -/
theorem scanString_escapeChar (c : Char) (done : List Nat) (rest : List Char) :
    scanString done (escapeChar c ++ rest) = scanString (c.toNat :: done) rest := by
  unfold escapeChar
  split
  · rfl
  · rfl
  · rfl
  · rfl
  · rfl
  · rfl
  · rfl
  · split
    · rename_i hcontrol
      have hhigh := hexValue?_hexDigit (c.toNat / 16) (by omega)
      have hlow := hexValue?_hexDigit (c.toNat % 16) (by omega)
      have hzero : Text.hexValue? '0' = some 0 := rfl
      have hn : unicodeEscape? '0' '0' (hexDigit (c.toNat / 16)) (hexDigit (c.toNat % 16)) =
          some c.toNat := by
        rw [unicodeEscape?, hhigh, hlow, hzero]
        simp only
        congr 1
        omega
      simp only [List.cons_append, List.nil_append, scanString, hn]
    · -- a character that stands for itself: neither a quote nor the start of an escape
      rename_i h1 h2 h3 h4 h5 h6 h7 hcontrol
      have hb : (c == '\\') = false := by simpa using h2
      rw [List.singleton_append, scanString]
      · simp [hcontrol, hb]
      · exact h1
      · intro a b e f r hc _
        exact h2 hc
      · intro e r hc _
        exact h2 hc

theorem scanString_flatMap (cs : List Char) (done : List Nat) (rest : List Char) :
    scanString done (cs.flatMap escapeChar ++ '"' :: rest) =
      some ((cs.map Char.toNat).reverse ++ done, rest) := by
  induction cs generalizing done with
  | nil => rfl
  | cons c cs ih =>
    rw [List.flatMap_cons, List.append_assoc, scanString_escapeChar, ih, List.map_cons,
      List.reverse_cons, List.append_assoc, List.singleton_append]

/-- A character is not half of a surrogate pair. -/
theorem isHalf_toNat (c : Char) : isHighHalf c.toNat = false ∧ isLowHalf c.toNat = false := by
  have h : c.toNat < 0xD800 ∨ 0xDFFF < c.toNat ∧ c.toNat < 0x110000 := c.valid
  simp only [isHighHalf, isLowHalf, Bool.and_eq_false_iff, decide_eq_false_iff_not]
  omega

theorem joinHalves_toNat (cs : List Char) : joinHalves (cs.map Char.toNat) = some cs := by
  induction cs with
  | nil => rfl
  | cons c cs ih =>
    obtain ⟨hhigh, hlow⟩ := isHalf_toNat c
    cases cs with
    | nil => simp [joinHalves, hhigh, hlow]
    | cons d ds =>
      rw [List.map_cons, List.map_cons, joinHalves, ← List.map_cons, ih]
      simp [hhigh, hlow]

theorem tokens_doubleQuote {cs rest : List Char} {units : List Nat}
    (h : scanString [] cs = some (units, rest)) :
    tokens ('"' :: cs) = .text ((joinHalves units.reverse).map String.ofList) :: tokens rest := by
  rw [tokens]
  have hspace : isSpace '"' = false := rfl
  simp only [hspace, Bool.false_eq_true, if_false, Char.reduceBEq, if_true]
  split
  · rename_i units' rest' h'
    rw [h] at h'
    cases h'
    rfl
  · rename_i h'
    rw [h] at h'
    cases h'

theorem tokens_quote (s : String) (rest : List Char) :
    tokens ((quote s).toList ++ rest) = .text (some s) :: tokens rest := by
  have htext : (quote s).toList ++ rest =
      '"' :: (s.toList.flatMap escapeChar ++ '"' :: rest) := by
    rw [quote, String.toList_ofList]
    simp
  rw [htext, tokens_doubleQuote (scanString_flatMap s.toList [] rest), List.append_nil,
    List.reverse_reverse, joinHalves_toNat, Option.map_some, String.ofList_toList]

/-! ## Numbers and words -/

/-- The text behind a number or word does not carry it on. -/
def Ends (rest : List Char) : Prop :=
  ∀ c, rest.head? = some c → isNumberChar c = false ∧ c.isAlpha = false

theorem takeWhile_append_ends {p : Char → Bool} {cs rest : List Char} (hcs : ∀ c ∈ cs, p c = true)
    (hrest : ∀ c, rest.head? = some c → p c = false) :
    (cs ++ rest).takeWhile p = cs ∧ (cs ++ rest).dropWhile p = rest := by
  rw [List.takeWhile_append_of_pos hcs, List.dropWhile_append_of_pos hcs]
  cases rest with
  | nil => simp
  | cons c rest => simp [hrest c rfl]

/-- Only zero is written with a zero in front. -/
theorem head?_toDigits {n : Nat} (hn : 0 < n) : (Nat.toDigits 10 n).head? ≠ some '0' := by
  induction n using Nat.strongRecOn with
  | ind n ih =>
    rw [Nat.toDigits_eq_if (by decide)]
    split
    · rename_i hlt
      have hdigit : ∀ d < 10, 0 < d → [d.digitChar].head? ≠ some '0' := by decide
      exact hdigit n hlt hn
    · rename_i hge
      rw [List.head?_append_of_ne_nil _ Nat.toDigits_ne_nil]
      exact ih (n / 10) (by omega) (by omega)

theorem digitsValue_toDigits (n : Nat) : Text.digitsValue (Nat.toDigits 10 n) = n := by
  have h := @Nat.ofDigitChars_ten_toDigits n
  rw [Nat.ofDigitChars_eq_foldl] at h
  simpa [Text.digitsValue, Nat.mul_comm] using h

theorem isDigit_of_mem_toDigits {n : Nat} {c : Char} (h : c ∈ Nat.toDigits 10 n) :
    c.isDigit = true :=
  Nat.isDigit_of_mem_toDigits (by decide) (by decide) h

theorem isPlainInteger_toDigits (n : Nat) : isPlainInteger (Nat.toDigits 10 n) = true := by
  rcases Nat.eq_zero_or_pos n with rfl | hn
  · rfl
  · have hhead := head?_toDigits hn
    unfold isPlainInteger
    split
    · rename_i hnil
      exact absurd hnil Nat.toDigits_ne_nil
    · rfl
    · rename_i ds hzero
      rw [hzero] at hhead
      exact absurd rfl hhead
    · exact List.all_eq_true.mpr fun c hc => isDigit_of_mem_toDigits hc

theorem numberToken_toDigits {n : Nat} (hn : n < UInt64.size) :
    numberToken (Nat.toDigits 10 n) = .scalar (.natural n) := by
  rw [numberToken, isPlainInteger_toDigits, digitsValue_toDigits, Bool.true_and,
    if_pos (by simpa using hn)]

theorem tokens_digit {c : Char} (hc : c.isDigit = true) (cs : List Char) :
    tokens (c :: cs) =
      numberToken (c :: cs.takeWhile isNumberChar) :: tokens (cs.dropWhile isNumberChar) := by
  have hne : ∀ d : Char, d.isDigit = false → (c == d) = false := by
    intro d hd
    rw [beq_eq_false_iff_ne]
    rintro rfl
    rw [hc] at hd
    cases hd
  rw [tokens]
  simp only [isSpace, isNumberChar, hc, hne ' ' rfl, hne '\t' rfl, hne '\n' rfl, hne '\r' rfl,
    hne '[' rfl, hne ']' rfl, hne '\x7b' rfl, hne '\x7d' rfl, hne ',' rfl, hne ':' rfl, hne '"' rfl,
    hne '+' rfl, bne, Bool.or_false, Bool.false_eq_true, if_false, Bool.true_or, Bool.not_false,
    Bool.and_true, if_true]

theorem tokens_number {n : Nat} (hn : n < UInt64.size) {rest : List Char} (hrest : Ends rest) :
    tokens (Nat.toDigits 10 n ++ rest) = .scalar (.natural n) :: tokens rest := by
  cases hdigits : Nat.toDigits 10 n with
  | nil => exact absurd hdigits Nat.toDigits_ne_nil
  | cons c cs =>
    have hall : ∀ d ∈ c :: cs, d.isDigit = true := by
      rw [← hdigits]
      exact fun d => isDigit_of_mem_toDigits
    have hnumber : ∀ d ∈ cs, isNumberChar d = true := by
      intro d hd
      simp [isNumberChar, hall d (List.mem_cons_of_mem _ hd)]
    obtain ⟨htake, hdrop⟩ := takeWhile_append_ends hnumber fun d hd => (hrest d hd).1
    rw [List.cons_append, tokens_digit (hall c List.mem_cons_self), htake, hdrop, ← hdigits,
      numberToken_toDigits hn]

theorem tokens_letter {c : Char} (hc : c.isAlpha = true) (hnumber : isNumberChar c = false)
    (cs : List Char) :
    tokens (c :: cs) =
      wordToken (c :: cs.takeWhile Char.isAlpha) :: tokens (cs.dropWhile Char.isAlpha) := by
  have hne : ∀ d : Char, d.isAlpha = false → (c == d) = false := by
    intro d hd
    rw [beq_eq_false_iff_ne]
    rintro rfl
    rw [hc] at hd
    cases hd
  rw [tokens]
  simp only [isSpace, hnumber, hc, hne ' ' rfl, hne '\t' rfl, hne '\n' rfl, hne '\r' rfl,
    hne '[' rfl, hne ']' rfl, hne '\x7b' rfl, hne '\x7d' rfl, hne ',' rfl, hne ':' rfl, hne '"' rfl,
    Bool.or_false, Bool.false_eq_true, if_false, Bool.false_and, if_true]

theorem tokens_word {c : Char} {cs : List Char} (hword : (c :: cs).all Char.isAlpha = true)
    (hnumber : isNumberChar c = false) {rest : List Char} (hrest : Ends rest) :
    tokens (c :: cs ++ rest) = wordToken (c :: cs) :: tokens rest := by
  have hletter := List.all_eq_true.mp hword
  obtain ⟨htake, hdrop⟩ := takeWhile_append_ends
    (fun d hd => hletter d (List.mem_cons_of_mem _ hd)) fun d hd => (hrest d hd).2
  rw [List.cons_append, tokens_letter (hletter c List.mem_cons_self) hnumber, htake, hdrop]

end Json

end GotoDefinition
