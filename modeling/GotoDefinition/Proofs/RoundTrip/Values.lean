import GotoDefinition.Json.Reader
import GotoDefinition.Proofs.RoundTrip.Tokens

/-!
# GotoDefinition.Proofs.RoundTrip.Values

Values read back from their text.

A printed value is followed by the end of the text or by what stands between values, so the reader
is followed with its open brackets and with any rest that does not carry a number or word on.

* `Plain.reads` — behind the text of a plain value the reader goes on with that value.
* `ofText_compact` — so the value of the text is the value that was written.
-/

namespace GotoDefinition

namespace Json

/-- A value that is written as it is: every string denotes a text, every number is a natural one
within 64 bits, and the text it was read from went on to its end. -/
inductive Plain : Json → Prop where
  | null : Plain .null
  | bool (b : Bool) : Plain (.bool b)
  | natural {n : Nat} (hn : n < UInt64.size) : Plain (.natural n)
  | str (s : String) : Plain (.str s)
  | array {items : List Json} (h : ∀ v ∈ items, Plain v) : Plain (.array items)
  | obj {fields : List (String × Json)} (h : ∀ f ∈ fields, Plain f.2) : Plain (.obj fields)

theorem ends_cons {c : Char} (hnumber : isNumberChar c = false) (hletter : c.isAlpha = false)
    (rest : List Char) : Ends (c :: rest) := by
  intro d hd
  cases hd
  exact ⟨hnumber, hletter⟩

/-- Behind its text the reader goes on with the value. -/
def Reads (v : Json) : Prop :=
  ∀ outer rest, Ends rest →
    readValue outer (tokens (v.compact.toList ++ rest)) = readRest v outer (tokens rest)

theorem Reads.not_closeBracket {v : Json} (h : v.Reads) (hv : v ≠ .malformed) {rest : List Char}
    (hrest : Ends rest) {ts : List Token} :
    tokens (v.compact.toList ++ rest) ≠ .closeBracket :: ts := by
  intro hclose
  have hread := h [] rest hrest
  rw [hclose] at hread
  simp [readValue, readRest, stopped, closeAll] at hread
  exact hv hread.1.symm

/-! ## Arrays -/

theorem intercalate_comma_cons (v : List Char) (vs : List (List Char)) :
    [','].intercalate (v :: vs) = v ++ vs.flatMap (',' :: ·) := by
  induction vs generalizing v with
  | nil => simp
  | cons w ws ih => rw [List.intercalate_cons_cons, ih]; simp

/-- The text of the elements behind the first. -/
def moreItems (vs : List Json) : List Char :=
  vs.flatMap fun v => ',' :: v.compact.toList

theorem ends_moreItems (vs : List Json) (rest : List Char) :
    Ends (moreItems vs ++ ']' :: rest) := by
  cases vs with
  | nil => exact ends_cons rfl rfl _
  | cons v vs => exact ends_cons rfl rfl _

/-- Induction on the elements that are still to come; the one that has just been read waits in
front of them. -/
theorem readRest_moreItems {vs : List Json} (h : ∀ v ∈ vs, v.Reads) (v : Json)
    (done : List Json) (outer : List Frame) (rest : List Char) :
    readRest v (.items done :: outer) (tokens (moreItems vs ++ ']' :: rest)) =
      readRest (.array (done.reverse ++ v :: vs)) outer (tokens rest) := by
  induction vs generalizing v done with
  | nil =>
    rw [moreItems, List.flatMap_nil, List.nil_append, tokens_closeBracket, readRest,
      List.reverse_cons]
  | cons w ws ih =>
    have hw := h w List.mem_cons_self (.items (v :: done) :: outer) _ (ends_moreItems ws rest)
    have hrest := ih (fun u hu => h u (List.mem_cons_of_mem _ hu)) w (v :: done)
    have htext : moreItems (w :: ws) ++ ']' :: rest =
        ',' :: (w.compact.toList ++ (moreItems ws ++ ']' :: rest)) := by
      simp [moreItems]
    rw [htext, tokens_comma, readRest, hw, hrest, List.reverse_cons, List.append_assoc,
      List.singleton_append]

theorem compactItems_eq_map (vs : List Json) : compactItems vs = vs.map compact := by
  induction vs with
  | nil => rfl
  | cons v vs ih => rw [compactItems, ih, List.map_cons]

theorem toList_compact_array (v : Json) (vs : List Json) (rest : List Char) :
    (Json.array (v :: vs)).compact.toList ++ rest =
      '[' :: (v.compact.toList ++ (moreItems vs ++ ']' :: rest)) := by
  simp [compact, compactItems_eq_map, String.toList_append, String.toList_intercalate,
    intercalate_comma_cons, moreItems, List.flatMap_map]

theorem reads_array {items : List Json} (hitems : ∀ v ∈ items, v.Reads)
    (hwhole : ∀ v ∈ items, v ≠ .malformed) : (Json.array items).Reads := by
  intro outer rest hrest
  cases items with
  | nil =>
    have htext : (Json.array []).compact.toList ++ rest = '[' :: ']' :: rest := rfl
    rw [htext, tokens_openBracket, tokens_closeBracket, readValue]
  | cons v vs =>
    have hv := hitems v List.mem_cons_self
    have hends := ends_moreItems vs rest
    rw [toList_compact_array, tokens_openBracket, readValue]
    · rw [hv _ _ hends, readRest_moreItems fun w hw => hitems w (List.mem_cons_of_mem _ hw)]
      rfl
    · exact fun ts => hv.not_closeBracket (hwhole v List.mem_cons_self) hends

/-! ## Objects -/

/-- The text of the fields behind the first. -/
def moreFields (fields : List (String × Json)) : List Char :=
  fields.flatMap fun (k, v) => ',' :: ((quote k).toList ++ ':' :: v.compact.toList)

theorem ends_moreFields (fields : List (String × Json)) (rest : List Char) :
    Ends (moreFields fields ++ '\x7d' :: rest) := by
  cases fields with
  | nil => exact ends_cons rfl rfl _
  | cons f fields => exact ends_cons rfl rfl _

theorem readRest_moreFields {fields : List (String × Json)} (h : ∀ f ∈ fields, f.2.Reads)
    (v : Json) (k : Option String) (done : List (Option String × Json)) (outer : List Frame)
    (rest : List Char) :
    readRest v (.fields done k :: outer) (tokens (moreFields fields ++ '\x7d' :: rest)) =
      readRest (.object (done.reverse ++ (k, v) :: fields.map fun f => (some f.1, f.2))) outer
        (tokens rest) := by
  induction fields generalizing v k done with
  | nil =>
    rw [moreFields, List.flatMap_nil, List.nil_append, tokens_closeBrace, readRest,
      List.reverse_cons, List.map_nil]
  | cons f fs ih =>
    obtain ⟨next, w⟩ := f
    have hw := h _ List.mem_cons_self (.fields ((k, v) :: done) (some next) :: outer) _
      (ends_moreFields fs rest)
    have hrest := ih (fun u hu => h u (List.mem_cons_of_mem _ hu)) w (some next) ((k, v) :: done)
    have htext : moreFields ((next, w) :: fs) ++ '\x7d' :: rest =
        ',' :: ((quote next).toList ++
          ':' :: (w.compact.toList ++ (moreFields fs ++ '\x7d' :: rest))) := by
      simp [moreFields]
    rw [htext, tokens_comma, tokens_quote, tokens_colon, readRest, hw, hrest, List.reverse_cons,
      List.append_assoc, List.singleton_append, List.map_cons]

theorem compactFields_eq_map (fields : List (String × Json)) :
    compactFields (fields.map fun (k, v) => (some k, v)) =
      fields.map fun f => quote f.1 ++ ":" ++ f.2.compact := by
  induction fields with
  | nil => rfl
  | cons f fs ih => rw [List.map_cons, compactFields, ih, List.map_cons]; rfl

theorem toList_compact_obj (k : String) (v : Json) (fields : List (String × Json))
    (rest : List Char) :
    (Json.obj ((k, v) :: fields)).compact.toList ++ rest =
      '\x7b' :: ((quote k).toList ++
        ':' :: (v.compact.toList ++ (moreFields fields ++ '\x7d' :: rest))) := by
  rw [obj, compact, compactFields_eq_map]
  simp [String.toList_append, String.toList_intercalate, intercalate_comma_cons, moreFields,
    List.flatMap_map]

theorem reads_obj {fields : List (String × Json)} (hfields : ∀ f ∈ fields, f.2.Reads) :
    (Json.obj fields).Reads := by
  intro outer rest hrest
  cases fields with
  | nil =>
    have htext : (Json.obj []).compact.toList ++ rest = '\x7b' :: '\x7d' :: rest := rfl
    rw [htext, tokens_openBrace, tokens_closeBrace, readValue]
    rfl
  | cons f fs =>
    obtain ⟨k, v⟩ := f
    have hv := hfields _ List.mem_cons_self (.fields [] (some k) :: outer) _
      (ends_moreFields fs rest)
    rw [toList_compact_obj, tokens_openBrace, tokens_quote, tokens_colon, readValue, hv,
      readRest_moreFields fun w hw => hfields w (List.mem_cons_of_mem _ hw)]
    rfl

/-! ## Whole values -/

theorem Plain.ne_malformed {v : Json} (hv : v.Plain) : v ≠ .malformed := by
  rintro rfl
  cases hv

theorem Plain.reads {v : Json} (hv : v.Plain) : v.Reads := by
  induction hv with
  | null =>
    intro outer rest hrest
    have htokens : tokens (Json.null.compact.toList ++ rest) = .scalar .null :: tokens rest :=
      tokens_word rfl rfl hrest
    rw [htokens, readValue]
  | bool b =>
    intro outer rest hrest
    have htokens :
        tokens ((Json.bool b).compact.toList ++ rest) = .scalar (.bool b) :: tokens rest := by
      cases b with
      | false => exact tokens_word rfl rfl hrest
      | true => exact tokens_word rfl rfl hrest
    rw [htokens, readValue]
  | @natural n hn =>
    intro outer rest hrest
    rw [compact, Nat.toString_eq_ofList_toDigits, String.toList_ofList, tokens_number hn hrest,
      readValue]
  | str s =>
    intro outer rest hrest
    have htext : (Json.str s).compact = quote s := rfl
    rw [htext, tokens_quote, readValue]
    rfl
  | array h ih => exact reads_array ih fun v hv => (h v hv).ne_malformed
  | obj h ih => exact reads_obj ih

theorem ofText_compact {v : Json} (hv : v.Plain) : ofText v.compact = (v, true) := by
  have h := hv.reads [] [] nofun
  rw [List.append_nil] at h
  rw [ofText, h, readRest, tokens]
  rfl

/-! ## Nesting -/

mutual

/-- The number of levels of brackets. -/
def depth : Json → Nat
  | .array items => 1 + itemsDepth items
  | .object fields => 1 + fieldsDepth fields
  | _ => 0

def itemsDepth : List Json → Nat
  | [] => 0
  | v :: vs => max v.depth (itemsDepth vs)

def fieldsDepth : List (Option String × Json) → Nat
  | [] => 0
  | (_, v) :: fields => max v.depth (fieldsDepth fields)

end

theorem itemsDepth_le {vs : List Json} {limit : Nat} :
    itemsDepth vs ≤ limit ↔ ∀ v ∈ vs, v.depth ≤ limit := by
  induction vs with
  | nil => simp [itemsDepth]
  | cons v vs ih => rw [itemsDepth, Nat.max_le, ih, List.forall_mem_cons]

theorem fieldsDepth_le {fields : List (String × Json)} {limit : Nat} :
    fieldsDepth (fields.map fun (k, v) => (some k, v)) ≤ limit ↔
      ∀ f ∈ fields, f.2.depth ≤ limit := by
  induction fields with
  | nil => simp [fieldsDepth]
  | cons f fields ih => rw [List.map_cons, fieldsDepth, Nat.max_le, ih, List.forall_mem_cons]

theorem depth_obj_le {fields : List (String × Json)} {limit : Nat} :
    (Json.obj fields).depth ≤ limit + 1 ↔ ∀ f ∈ fields, f.2.depth ≤ limit := by
  rw [obj, depth, Nat.add_comm, Nat.add_le_add_iff_right, fieldsDepth_le]

theorem allHeld_iff {vs : List Json} {limit : Nat} :
    allHeld limit vs = true ↔ ∀ v ∈ vs, v.isHeld limit = true := by
  induction vs with
  | nil => simp [allHeld]
  | cons v vs ih => rw [allHeld, Bool.and_eq_true, ih, List.forall_mem_cons]

theorem allFieldsHeld_iff {fields : List (String × Json)} {limit : Nat} :
    allFieldsHeld limit (fields.map fun (k, v) => (some k, v)) = true ↔
      ∀ f ∈ fields, f.2.isHeld limit = true := by
  induction fields with
  | nil => simp [allFieldsHeld]
  | cons f fields ih =>
    rw [List.map_cons, allFieldsHeld, Bool.and_eq_true, ih, List.forall_mem_cons,
      Option.isSome_some, Bool.true_and]

/-- A plain value can be kept for later unless it is nested too deeply. -/
theorem Plain.isHeld_iff {v : Json} (hv : v.Plain) {limit : Nat} :
    v.isHeld limit = true ↔ v.depth ≤ limit := by
  induction hv generalizing limit with
  | null => simp [isHeld, depth]
  | bool b => simp [isHeld, depth]
  | natural hn => simp [isHeld, depth]
  | str s => simp [Json.str, isHeld, depth]
  | array h ih =>
    cases limit with
    | zero => simp [isHeld, depth]
    | succ limit =>
      rw [isHeld, allHeld_iff, depth, Nat.add_comm, Nat.add_le_add_iff_right, itemsDepth_le]
      exact forall₂_congr fun v hv => ih v hv
  | obj h ih =>
    cases limit with
    | zero => simp [Json.obj, isHeld, depth]
    | succ limit =>
      rw [depth_obj_le, Json.obj, isHeld, allFieldsHeld_iff]
      exact forall₂_congr fun f hf => ih f hf

end Json

/-- Reading the text of a value is reading the value. -/
theorem Reader.document_compact {α : Type} (read : Reader α) {v : Json} (hv : v.Plain) :
    Reader.document read v.compact = read v := by
  rw [Reader.document, Json.ofText_compact hv]
  dsimp only
  cases read v with
  | error e => rfl
  | ok a => rfl

end GotoDefinition
