import GotoDefinition.Json.Reader
import Mathlib.Data.List.Basic

/-!
# GotoDefinition.Proofs.RoundTrip.Structures

Structures read from what was written, and where the values of a structure come from.

* `Fields.read_written` — an object that lists the fields in their order is read as its values.
* `Fields.given_of_read` — whatever a structure is read from, each of its values was read by the
  reader of its field or is the default of the field.
-/

namespace GotoDefinition

namespace Fields

/-! ## Written structures -/

/-- The entries are the fields in their order, each read as its value. -/
inductive Written : {αs : List Type} → Fields αs → Values αs → List (String × Json) → Prop where
  | nil : Written .nil () []
  | cons {α : Type} {αs : List Type} {name : String} {read : Reader α} {default? : Option α}
      {rest : Fields αs} {a : α} {as : Values αs} {v : Json} {entries : List (String × Json)}
      (hread : read v = .ok a) (hrest : Written rest as entries) :
      Written (.cons name read default? rest) (a, as) ((name, v) :: entries)

theorem Written.keys {αs : List Type} {fs : Fields αs} {as : Values αs}
    {entries : List (String × Json)} (h : fs.Written as entries) :
    entries.map Prod.fst = fs.names := by
  induction h with
  | nil => rfl
  | cons hread hrest ih => rw [List.map_cons, ih, names]

/-- Entries of other names pass by a field. -/
theorem fill_of_not_mem {α : Type} {αs : List Type} {name : String} {read : Reader α}
    {default? : Option α} {rest : Fields αs} {unknown : Unknown} {slot : Option α}
    {entries : List (String × Json)} (h : name ∉ entries.map Prod.fst) (more : Draft αs) :
    (Fields.cons name read default? rest).fill unknown (slot, more)
        (entries.map fun (k, v) => (some k, v)) =
      (rest.fill unknown more (entries.map fun (k, v) => (some k, v))).map (slot, ·) := by
  induction entries generalizing more with
  | nil => rfl
  | cons entry entries ih =>
    obtain ⟨key, v⟩ := entry
    simp only [List.map_cons, List.mem_cons, not_or] at h
    simp only [List.map_cons, fill, put, if_neg (Ne.symm h.1)]
    cases rest.put more key v with
    | none =>
      dsimp only
      split
      · exact ih h.2 more
      · rfl
    | some outcome =>
      cases outcome with
      | ok more => exact ih h.2 more
      | error e => rfl

/-- The first entry fills the first field, and the others pass by it. -/
theorem Written.complete_fill {αs : List Type} {fs : Fields αs} {as : Values αs}
    {entries : List (String × Json)} (h : fs.Written as entries) (hnodup : fs.names.Nodup)
    (unknown : Unknown) :
    ∃ d, fs.fill unknown fs.blank (entries.map fun (k, v) => (some k, v)) = .ok d ∧
      fs.complete d = .ok as := by
  induction h with
  | nil => exact ⟨(), rfl, rfl⟩
  | @cons α αs name read default? rest a as v entries hread hrest ih =>
    obtain ⟨hfresh, hnames⟩ := List.nodup_cons.mp hnodup
    obtain ⟨more, hfill, hcomplete⟩ := ih hnames
    rw [← hrest.keys] at hfresh
    refine ⟨(some a, more), ?_, ?_⟩
    · simp only [List.map_cons, blank, fill, put, if_true, hread]
      rw [fill_of_not_mem hfresh, hfill]
      rfl
    · simp only [complete, Option.some_or, hcomplete]

theorem read_written {αs : List Type} {fs : Fields αs} (hnodup : fs.names.Nodup) {as : Values αs}
    {entries : List (String × Json)} (h : fs.Written as entries) (unknown : Unknown) :
    fs.read unknown (.obj entries) = .ok as := by
  obtain ⟨d, hfill, hcomplete⟩ := h.complete_fill hnodup unknown
  rw [Json.obj, read, hfill]
  exact hcomplete

/-! ## Where values come from -/

/-- Each value was read by the reader of its field or is the default of the field. -/
def Given : {αs : List Type} → Fields αs → Values αs → Prop
  | _, .nil, _ => True
  | _, .cons _ read default? rest, (a, as) =>
    ((∃ v, read v = .ok a) ∨ default? = some a) ∧ rest.Given as

/-- What has been read so far was read by the readers of the fields. -/
def Drafted : {αs : List Type} → Fields αs → Draft αs → Prop
  | _, .nil, _ => True
  | _, .cons _ read _ rest, (slot, more) =>
    (∀ a, slot = some a → ∃ v, read v = .ok a) ∧ rest.Drafted more

theorem drafted_blank : {αs : List Type} → (fs : Fields αs) → fs.Drafted fs.blank
  | _, .nil => trivial
  | _, .cons _ _ _ rest => ⟨nofun, rest.drafted_blank⟩

theorem drafted_put : {αs : List Type} → {fs : Fields αs} → {d d' : Draft αs} → {key : String} →
    {v : Json} → fs.Drafted d → fs.put d key v = some (.ok d') → fs.Drafted d'
  | _, .nil, _, _, _, _, _, hput => nomatch hput
  | _, .cons name read _ rest, (slot, more), d', key, v, hd, hput => by
    obtain ⟨hslot, hmore⟩ := hd
    simp only [put] at hput
    split at hput
    · cases slot with
      | some a => cases hput
      | none =>
        dsimp only at hput
        split at hput
        · rename_i a hread
          cases hput
          exact ⟨fun b hb => ⟨v, by rw [hread, Option.some.inj hb]⟩, hmore⟩
        · cases hput
    · split at hput
      · cases hput
      · rename_i more' hrest
        cases hput
        exact ⟨hslot, drafted_put hmore hrest⟩
      · cases hput

theorem drafted_fill {αs : List Type} {fs : Fields αs} {unknown : Unknown} {d d' : Draft αs}
    {entries : List (Option String × Json)} (hd : fs.Drafted d)
    (h : fs.fill unknown d entries = .ok d') : fs.Drafted d' := by
  induction entries generalizing d with
  | nil =>
    cases h
    exact hd
  | cons entry entries ih =>
    obtain ⟨_ | key, v⟩ := entry
    · cases h
    · rw [fill] at h
      split at h
      · rename_i d'' hput
        exact ih (drafted_put hd hput) h
      · cases h
      · split at h
        · exact ih hd h
        · cases h

theorem given_of_complete : {αs : List Type} → {fs : Fields αs} → {d : Draft αs} →
    {as : Values αs} → fs.Drafted d → fs.complete d = .ok as → fs.Given as
  | _, .nil, _, _, _, _ => trivial
  | _, .cons _ _ default? rest, (slot, more), as, hd, h => by
    obtain ⟨hslot, hmore⟩ := hd
    rw [complete] at h
    split at h
    · cases h
    · rename_i a ha
      split at h
      · rename_i as' hrest
        cases h
        refine ⟨?_, given_of_complete hmore hrest⟩
        cases slot with
        | none => exact .inr ha
        | some b => exact .inl (hslot a ha)
      · cases h

theorem given_of_read {αs : List Type} {fs : Fields αs} {unknown : Unknown} {v : Json}
    {as : Values αs} (h : fs.read unknown v = .ok as) : fs.Given as := by
  unfold read at h
  split at h
  · split at h
    · rename_i d hfill
      exact given_of_complete (drafted_fill fs.drafted_blank hfill) h
    · cases h
  · split at h
    · cases h
    · rename_i d hfill
      split at h
      · cases h
      · exact given_of_complete (drafted_fill fs.drafted_blank hfill) h
  · cases h

end Fields

end GotoDefinition
