import GotoDefinition.Text.Segments

/-!
# GotoDefinition.Url.Punycode

The ASCII form of a host label that holds other characters: its ASCII characters, then the others
as gaps in ascending order, each gap a number of varying base with an adaptive bias.
-/

namespace GotoDefinition

namespace Punycode

def digit (d : Nat) : Char :=
  if d < 26 then Char.ofNat (97 + d) else Char.ofNat (22 + d)

/-- The largest value of the digit at position `k`, between 1 and 26. -/
def threshold (k bias : Nat) : Nat :=
  if k ≤ bias then 1 else min (k - bias) 26

theorem threshold_pos (k bias : Nat) : 0 < threshold k bias := by
  unfold threshold
  split
  · decide
  · omega

theorem threshold_le (k bias : Nat) : threshold k bias ≤ 26 := by
  unfold threshold
  split <;> omega

def damped (delta k : Nat) : Nat :=
  if 455 < delta then damped (delta / 35) (k + 36) else k + 36 * delta / (delta + 38)
termination_by delta

def adapt (delta count : Nat) (first : Bool) : Nat :=
  let delta := if first then delta / 700 else delta / 2
  damped (delta + delta / count) 0

/-- A gap as digits, the last below its threshold. -/
def digits (bias k q : Nat) : List Char :=
  let t := threshold k bias
  if q < t then [digit q]
  else digit (t + (q - t) % (36 - t)) :: digits bias (k + 36) ((q - t) / (36 - t))
termination_by q
decreasing_by
  have h₁ := threshold_pos k bias
  have h₂ := threshold_le k bias
  have h₃ := Nat.div_le_self (q - threshold k bias) (36 - threshold k bias)
  simp only [t] at *
  omega

structure Encoder where
  out : List Char
  delta : Nat
  bias : Nat
  written : Nat

/-- Passes one character of the label while the character `m` is being placed. -/
def Encoder.pass (basic m : Nat) (e : Encoder) (c : Char) : Encoder :=
  if c.toNat < m then { e with delta := e.delta + 1 }
  else if c.toNat = m then
    { out := e.out ++ digits e.bias 36 e.delta
      delta := 0
      bias := adapt e.delta (e.written + 1) (e.written == basic)
      written := e.written + 1 }
  else e

/-- Places the characters above ASCII, each time all occurrences of the next larger one. -/
def place (label : List Char) (basic : Nat) : List Nat → Nat → Encoder → Encoder
  | [], _, e => e
  | m :: rest, n, e =>
    let e := { e with delta := e.delta + (m - n) * (e.written + 1) }
    let e := label.foldl (Encoder.pass basic m) e
    place label basic rest (m + 1) { e with delta := e.delta + 1 }

def encode (label : List Char) : List Char :=
  let ascii := label.filter (·.toNat < 128)
  let others := ((label.filter (128 ≤ ·.toNat)).map Char.toNat).mergeSort.eraseDups
  let front := if ascii.isEmpty then [] else ascii ++ ['-']
  (place label ascii.length others 128 ⟨front, 0, 72, ascii.length⟩).out

/-! ## Reading -/

def digitValue? (c : Char) : Option Nat :=
  if c.isLower then some (c.toNat - 97)
  else if c.isUpper then some (c.toNat - 65)
  else if c.isDigit then some (c.toNat - 22)
  else none

/-- The gap that the text starts with, its digits with growing weights, and the rest. -/
def gap? (bias : Nat) : List Char → Nat → Nat → Nat → Option (Nat × List Char)
  | [], _, _, _ => none
  | c :: rest, k, weight, sum =>
    match digitValue? c with
    | none => none
    | some d =>
      let t := threshold k bias
      if d < t then some (sum + d * weight, rest)
      else gap? bias rest (k + 36) (weight * (36 - t)) (sum + d * weight)

theorem length_gap? {bias : Nat} {cs rest : List Char} {k weight sum n : Nat}
    (h : gap? bias cs k weight sum = some (n, rest)) : rest.length < cs.length := by
  induction cs generalizing k weight sum with
  | nil => simp [gap?] at h
  | cons c cs ih =>
    simp only [gap?] at h
    split at h
    · simp at h
    · split at h
      · simp only [Option.some.injEq, Prod.mk.injEq] at h
        simp [← h.2]
      · have := ih h
        simp only [List.length_cons]
        omega

/-- Inserts the characters that the gaps of a text place: `m` is the last one inserted, and `i` the
place behind it. -/
def insertAll? (done : List Char) (bias m i : Nat) (cs : List Char) : Option (List Char) :=
  match cs with
  | [] => some done
  | c :: cs =>
    match h : gap? bias (c :: cs) 36 1 0 with
    | none => none
    | some (delta, rest) =>
      let count := done.length + 1
      let next := m + (i + delta) / count
      let place := (i + delta) % count
      if next.isValidChar then
        insertAll? (done.take place ++ Char.ofNat next :: done.drop place)
          (adapt delta count (i == 0)) next (place + 1) rest
      else none
termination_by cs.length
decreasing_by exact length_gap? h

/-- The label of a code: what stands before its last `-`, with the characters that the rest
places. -/
def decode? (code : List Char) : Option (List Char) :=
  insertAll? ((Text.beforeLast? '-' code).getD []) 72 128 0 (Text.lastSegment '-' code)

end Punycode

end GotoDefinition
