/-!
# GotoDefinition.Text.Segments

A text as segments between separators, and the sigils in front of it.

* `segments` — all segments; a text without the separator is one segment.
* `lastSegment`, `beforeLast?` — what stands after and before the last separator.
* `dropLeading` — the text without the copies of a character that it starts with.
* `segments_intercalate` — texts that are joined by a separator are its segments again.
-/

namespace GotoDefinition

namespace Text

def segments (sep : Char) : List Char → List (List Char)
  | [] => [[]]
  | c :: cs =>
    if c = sep then [] :: segments sep cs
    else
      match segments sep cs with
      | [] => [[c]]
      | s :: ss => (c :: s) :: ss

theorem segments_ne_nil (sep : Char) (cs : List Char) : segments sep cs ≠ [] := by
  cases cs with
  | nil => simp [segments]
  | cons c cs =>
    rw [segments]
    split
    · simp
    · split <;> simp

theorem segments_of_not_mem {sep : Char} {cs : List Char} (h : sep ∉ cs) :
    segments sep cs = [cs] := by
  induction cs with
  | nil => rfl
  | cons c cs ih =>
    rw [List.mem_cons, not_or] at h
    rw [segments, if_neg (Ne.symm h.1), ih h.2]

theorem segments_append {sep : Char} {cs : List Char} (h : sep ∉ cs) (ds : List Char) :
    segments sep (cs ++ sep :: ds) = cs :: segments sep ds := by
  induction cs with
  | nil => rw [List.nil_append, segments, if_pos rfl]
  | cons c cs ih =>
    rw [List.mem_cons, not_or] at h
    rw [List.cons_append, segments, if_neg (Ne.symm h.1), ih h.2]

theorem segments_intercalate {sep : Char} {parts : List (List Char)} (hne : parts ≠ [])
    (h : ∀ cs ∈ parts, sep ∉ cs) : segments sep ([sep].intercalate parts) = parts := by
  induction parts with
  | nil => exact absurd rfl hne
  | cons cs parts ih =>
    have hcs := h cs List.mem_cons_self
    cases parts with
    | nil => rw [List.intercalate_singleton, segments_of_not_mem hcs]
    | cons ds parts =>
      have hrest := ih (List.cons_ne_nil _ _) fun es hes => h es (List.mem_cons_of_mem _ hes)
      rw [List.intercalate_cons_cons, List.append_assoc, List.singleton_append,
        segments_append hcs, hrest]

theorem not_mem_of_mem_segments {sep : Char} {cs part : List Char} (h : part ∈ segments sep cs) :
    sep ∉ part := by
  induction cs generalizing part with
  | nil =>
    rw [segments, List.mem_singleton] at h
    rw [h]
    exact List.not_mem_nil
  | cons c cs ih =>
    rw [segments] at h
    split at h
    · rcases List.mem_cons.mp h with rfl | h
      · exact List.not_mem_nil
      · exact ih h
    · rename_i hc
      split at h
      · rename_i hnone
        exact absurd hnone (segments_ne_nil sep cs)
      · rename_i s ss hss
        rw [hss] at ih
        rcases List.mem_cons.mp h with rfl | h
        · rw [List.mem_cons, not_or]
          exact ⟨Ne.symm hc, ih List.mem_cons_self⟩
        · exact ih (List.mem_cons_of_mem _ h)

def lastSegment (sep : Char) (cs : List Char) : List Char :=
  (cs.reverse.takeWhile (· != sep)).reverse

/-- `none` when the separator does not occur. -/
def beforeLast? (sep : Char) (cs : List Char) : Option (List Char) :=
  match cs.reverse.dropWhile (· != sep) with
  | [] => none
  | _ :: rest => some rest.reverse

def dropLeading (c : Char) (cs : List Char) : List Char :=
  cs.dropWhile (· == c)

theorem dropLeading_cons_self (c : Char) (cs : List Char) :
    dropLeading c (c :: cs) = dropLeading c cs :=
  List.dropWhile_cons_of_pos (beq_self_eq_true c)

theorem dropLeading_sublist (c : Char) (cs : List Char) : (dropLeading c cs).Sublist cs :=
  List.dropWhile_sublist _

/-- What is dropped in front of a text is dropped in front of a longer one. -/
theorem dropLeading_append (c : Char) (cs ds : List Char) :
    dropLeading c (dropLeading c cs ++ ds) = dropLeading c (cs ++ ds) := by
  induction cs with
  | nil => rfl
  | cons d cs ih =>
    by_cases h : d = c
    · subst h
      rw [List.cons_append, dropLeading_cons_self, dropLeading_cons_self, ih]
    · have hd : (d == c) = false := by simpa using h
      simp [dropLeading, hd]

/-- The text without the copies of a character that it starts with. -/
def stripLeading (c : Char) (s : String) : String :=
  String.ofList (dropLeading c s.toList)

theorem stripLeading_append (c : Char) (a b : String) :
    stripLeading c (stripLeading c a ++ b) = stripLeading c (a ++ b) := by
  simp only [stripLeading, String.toList_append, String.toList_ofList, dropLeading_append]

theorem stripLeading_stripLeading (c : Char) (a : String) :
    stripLeading c (stripLeading c a) = stripLeading c a := by
  have h := stripLeading_append c a ""
  rwa [String.append_empty, String.append_empty] at h

end Text

end GotoDefinition
