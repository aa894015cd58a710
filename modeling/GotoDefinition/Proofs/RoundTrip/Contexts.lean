import GotoDefinition.Document.Context
import GotoDefinition.Proofs.RoundTrip.Structures
import GotoDefinition.Proofs.RoundTrip.Types
import GotoDefinition.Proofs.RoundTrip.Values

/-!
# GotoDefinition.Proofs.RoundTrip.Contexts

Contexts read back from what is written of them.

A name or an import table can only hold what its text denotes, but a variable can be given a type
that is not the type its text denotes. So the invariant is that the types of variables are legible:
reading a document establishes it, and each step of building a context keeps it.

* `Context.Built.legible` — the invariant.
* `Reader.context_toJson` — with it, a context is read as it was written.
* `Reader.document_context_compact` — so is the text of every context that was read or built.
-/

namespace GotoDefinition

/-- A context that was read, or is empty or within a namespace, after any number of steps. -/
inductive Context.Built : Context → Prop where
  | document {s : String} {ctx : Context} (h : Reader.document Reader.context s = .ok ctx) :
      Context.Built ctx
  | empty : Context.Built .empty
  | inNamespace (name : String) : Context.Built (.inNamespace name)
  | withClass {ctx : Context} (h : Context.Built ctx) (name : String) :
      Context.Built (ctx.withClass name)
  | withImport {ctx : Context} (h : Context.Built ctx) (key target : String) :
      Context.Built (ctx.withImport key target)
  /-- The type of the variable was read from a text. -/
  | withVariable {ctx : Context} (h : Context.Built ctx) {v : Variable} {s : String}
      (htype : UnionType.ofText s = .ok v.type) : Context.Built (ctx.withVariable v)

/-! ## Types of variables -/

/-- Every variable has a type that is read from its own text. -/
def Scope.Legible (s : Scope) : Prop :=
  ∀ v ∈ s.entries, v.type.Legible

namespace Scope

theorem legible_empty : Scope.empty.Legible :=
  nofun

theorem mem_replaceFirst {v w : Variable} {vs : List Variable} (h : w ∈ replaceFirst v vs) :
    w = v ∨ w ∈ vs := by
  induction vs with
  | nil => exact .inl (List.mem_singleton.mp h)
  | cons u us ih =>
    rw [replaceFirst] at h
    split at h
    · rcases List.mem_cons.mp h with h | h
      · exact .inl h
      · exact .inr (List.mem_cons_of_mem _ h)
    · rcases List.mem_cons.mp h with h | h
      · exact .inr (h ▸ List.mem_cons_self)
      · exact (ih h).imp_right (List.mem_cons_of_mem _)

theorem Legible.add {s : Scope} (hs : s.Legible) {v : Variable} (hv : v.type.Legible) :
    (s.add v).Legible := by
  intro w hw
  rcases mem_replaceFirst hw with rfl | hw
  · exact hv
  · exact hs w hw

end Scope

namespace Reader

theorem read_of_document {α : Type} {read : Reader α} {s : String} {a : α}
    (h : document read s = .ok a) : ∃ v, read v = .ok a := by
  rw [document] at h
  dsimp only at h
  split at h
  · cases h
  · rename_i b hread
    split at h
    · cases h
      exact ⟨_, hread⟩
    · cases h

theorem read_of_mem_items {α : Type} {read : Reader α} {vs : List Json} {as : List α} {a : α}
    (h : items read vs = .ok as) (ha : a ∈ as) : ∃ v, read v = .ok a := by
  induction vs generalizing as with
  | nil =>
    cases h
    cases ha
  | cons v vs ih =>
    rw [items] at h
    split at h
    · cases h
    · rename_i b hread
      split at h
      · cases h
      · rename_i bs hrest
        cases h
        rcases List.mem_cons.mp ha with rfl | ha
        · exact ⟨v, hread⟩
        · exact ih hrest ha

theorem legible_of_unionType {v : Json} {u : UnionType} (h : unionType v = .ok u) :
    u.Legible := by
  rw [unionType] at h
  split at h
  · cases h
  · split at h
    · rename_i hu
      cases h
      exact UnionType.legible_of_ofText hu
    · cases h

theorem legible_of_variableDocument {v : Json} {x : Variable} (h : variableDocument v = .ok x) :
    x.type.Legible := by
  rw [variableDocument] at h
  split at h
  · cases h
  · rename_i name type hread
    cases h
    obtain ⟨_, htype | hempty, _⟩ := Fields.given_of_read hread
    · obtain ⟨w, hw⟩ := htype
      exact legible_of_unionType hw
    · cases hempty
      exact UnionType.legible_empty

theorem legible_of_scope {v : Json} {s : Scope} (h : scope v = .ok s) : s.Legible := by
  rw [scope] at h
  split at h
  · cases h
  · rename_i xs hread
    cases h
    intro x hx
    unfold list at hread
    split at hread
    · obtain ⟨w, hw⟩ := read_of_mem_items hread hx
      exact legible_of_variableDocument hw
    · cases hread

theorem legible_of_context {v : Json} {ctx : Context} (h : context v = .ok ctx) :
    ctx.scope.Legible := by
  rw [context] at h
  split at h
  · cases h
  · rename_i hread
    cases h
    obtain ⟨_, _, _, _, _, hscope | hempty, _⟩ := Fields.given_of_read hread
    · obtain ⟨w, hw⟩ := hscope
      exact legible_of_scope hw
    · cases hempty
      exact Scope.legible_empty

end Reader

/-- Reading establishes the invariant, and no step but `withVariable` touches the variables. -/
theorem Context.Built.legible {ctx : Context} (h : ctx.Built) : ctx.scope.Legible := by
  induction h with
  | document h =>
    obtain ⟨v, hv⟩ := Reader.read_of_document h
    exact Reader.legible_of_context hv
  | empty => exact Scope.legible_empty
  | inNamespace name => exact Scope.legible_empty
  | withClass h name ih => exact ih
  | withImport h key target ih => exact ih
  | withVariable h htype ih => exact ih.add (UnionType.legible_of_ofText htype)

/-! ## Import tables -/

namespace Imports

theorem entries_insert (is : Imports) (key target : String) :
    (is.insert key target).entries = insertEntry key target is.entries := rfl

theorem insertEntry_last {key target : String} {es : List (String × String)}
    (h : ∀ e ∈ es, e.1 < key) : insertEntry key target es = es ++ [(key, target)] := by
  induction es with
  | nil => rfl
  | cons e es ih =>
    obtain ⟨a, t⟩ := e
    have hlt : a < key := h _ List.mem_cons_self
    rw [insertEntry, if_neg (String.lt_asymm hlt), if_neg (Std.ne_of_lt hlt).symm,
      ih fun e he => h e (List.mem_cons_of_mem _ he), List.cons_append]

end Imports

namespace Reader

/-- The entries of a table come in the order of their keys, so each is put behind those before. -/
theorem importEntries_entries {is js : Imports} {es : List (String × String)}
    (h : js.entries = is.entries ++ es) :
    importEntries is (es.map fun e => (some e.1, .str e.2)) = .ok js := by
  induction es generalizing is with
  | nil =>
    rw [List.append_nil] at h
    exact congrArg Except.ok (Imports.ext_entries h.symm)
  | cons e es ih =>
    obtain ⟨key, target⟩ := e
    have hlast : ∀ e ∈ is.entries, e.1 < key := by
      have hascending := js.ascending
      rw [h, List.pairwise_append] at hascending
      exact fun e he => hascending.2.2 e he _ List.mem_cons_self
    have hentries : js.entries = (is.insert key target).entries ++ es := by
      rw [h, Imports.entries_insert, Imports.insertEntry_last hlast, List.append_assoc,
        List.singleton_append]
    exact ih hentries

theorem imports_toJson (is : Imports) : imports is.toJson = .ok is := by
  rw [Imports.toJson, Json.obj, imports, List.map_map]
  exact importEntries_entries (List.nil_append _).symm

/-! ## Fields -/

theorem option_orNull {α : Type} {read : Reader α} {write : α → Json} {a? : Option α}
    (hread : ∀ a, a? = some a → read (write a) = .ok a)
    (hwritten : ∀ a, a? = some a → write a ≠ .null) :
    option read (.orNull (a?.map write)) = .ok a? := by
  cases a? with
  | none => rfl
  | some a =>
    rw [Option.map_some, Json.orNull, option, hread a rfl]
    exact hwritten a rfl

theorem name_text {kind : NameKind} (n : Name kind) : name (.str n.text) = .ok n := by
  rw [name, mapText, Json.str, text]
  dsimp only
  rw [Name.ofText_text]

theorem url_text {u : Url} (h : Url.ofText? u.text = some u) : url (.str u.text) = .ok u := by
  rw [url, Json.str, text]
  dsimp only
  rw [h]

theorem variable_toJson {x : Variable} (h : x.type.Legible) :
    variableDocument x.toJson = .ok x := by
  have htype : unionType (.str x.type.text) = .ok x.type := by
    rw [unionType, Json.str, text]
    dsimp only
    rw [h.ofText_text]
  have hwritten : Fields.Written
      (.required "name" text <| .optional "type" unionType .empty .nil)
      (x.name, x.type, ()) [("name", .str x.name), ("type", .str x.type.text)] :=
    .cons rfl (.cons htype .nil)
  rw [variableDocument, Variable.toJson, Fields.read_written (by decide) hwritten]

theorem items_map {α : Type} {read : Reader α} {write : α → Json} {as : List α}
    (h : ∀ a ∈ as, read (write a) = .ok a) : items read (as.map write) = .ok as := by
  induction as with
  | nil => rfl
  | cons a as ih =>
    rw [List.map_cons, items, h a List.mem_cons_self,
      ih fun b hb => h b (List.mem_cons_of_mem _ hb)]

theorem scope_toJson {s : Scope} (h : s.Legible) : scope s.toJson = .ok s := by
  rw [scope, Scope.toJson, list, items_map fun v hv => variable_toJson (h v hv)]

theorem context_toJson {ctx : Context} (hscope : ctx.scope.Legible)
    (hfile : ∀ u, ctx.file = some u → Url.ofText? u.text = some u) :
    context ctx.toJson = .ok ctx := by
  have hwritten : Fields.Written
      (.optional "file" (option url) none <|
        .optional "namespace" (option text) none <| .optional "use_map" imports .empty <|
        .optional "class" (option name) none <| .optional "function" (option text) none <|
        .optional "scope" scope .empty .nil)
      (ctx.file, ctx.currentNamespace, ctx.imports, ctx.enclosingClass, ctx.enclosingFunction,
        ctx.scope, ())
      [("file", .orNull (ctx.file.map fun u => .str u.text)),
        ("namespace", .orNull (ctx.currentNamespace.map .str)),
        ("use_map", ctx.imports.toJson),
        ("class", .orNull (ctx.enclosingClass.map fun c => .str c.text)),
        ("function", .orNull (ctx.enclosingFunction.map .str)),
        ("scope", ctx.scope.toJson)] := by
    refine .cons ?file <| .cons ?ns <| .cons (imports_toJson _) <| .cons ?cls <|
      .cons ?function <| .cons (scope_toJson hscope) .nil
    case file => exact option_orNull (fun u hu => url_text (hfile u hu)) nofun
    case ns => exact option_orNull (fun _ _ => rfl) nofun
    case cls => exact option_orNull (fun c _ => name_text c) nofun
    case function => exact option_orNull (fun _ _ => rfl) nofun
  rw [context, Context.toJson, Fields.read_written (by decide) hwritten]

end Reader

/-! ## Texts -/

theorem Json.plain_orNull {α : Type} (a? : Option α) (text : α → String) :
    (Json.orNull (a?.map fun a => .str (text a))).Plain := by
  cases a? with
  | none => exact .null
  | some a => exact .str _

theorem Imports.plain_toJson (is : Imports) : is.toJson.Plain := by
  refine .obj fun f hf => ?_
  obtain ⟨e, _, rfl⟩ := List.mem_map.mp hf
  exact .str _

theorem Variable.plain_toJson (x : Variable) : x.toJson.Plain := by
  refine .obj fun f hf => ?_
  simp only [List.mem_cons, List.not_mem_nil, or_false] at hf
  rcases hf with rfl | rfl
  · exact .str _
  · exact .str _

theorem Scope.plain_toJson (s : Scope) : s.toJson.Plain := by
  refine .array fun v hv => ?_
  obtain ⟨x, _, rfl⟩ := List.mem_map.mp hv
  exact x.plain_toJson

theorem Context.plain_toJson (ctx : Context) : ctx.toJson.Plain := by
  refine .obj fun f hf => ?_
  simp only [List.mem_cons, List.not_mem_nil, or_false] at hf
  rcases hf with rfl | rfl | rfl | rfl | rfl | rfl
  · exact Json.plain_orNull _ _
  · exact Json.plain_orNull _ _
  · exact ctx.imports.plain_toJson
  · exact Json.plain_orNull _ _
  · exact Json.plain_orNull _ _
  · exact ctx.scope.plain_toJson

/-- However a context came about, its text is read as that context. That the printed form of a file
denotes the file is taken from how URLs are printed. -/
theorem Reader.document_context_compact {ctx : Context} (h : ctx.Built)
    (hfile : ∀ u, ctx.file = some u → Url.ofText? u.text = some u) :
    Reader.document Reader.context ctx.toJson.compact = .ok ctx := by
  rw [Reader.document_compact _ ctx.plain_toJson]
  exact Reader.context_toJson h.legible hfile

namespace Described

/-- A document in no order of the format, with a field that contexts do not have. -/
def text : String :=
  "\x7b\"use_map\":\x7b\"Post\":\"Blog\\\\Post\",\"A\":\"\\\\B\"\x7d,\"version\":3," ++
    "\"scope\":[\x7b\"name\":\"x\"\x7d],\"class\":\" app\\\\main \"," ++
    "\"file\":\"FILE:///src/./a.php\"\x7d"

def context : Context where
  file := some ⟨"file:///src/a.php"⟩
  currentNamespace := none
  imports := (Imports.empty.insert "A" "\\B").insert "Post" "Blog\\Post"
  enclosingClass := some (Name.ofText "app\\main")
  enclosingFunction := none
  scope := ⟨[⟨"x", .empty⟩]⟩

/-- The variable is given the type `?int`. -/
def extended : Context :=
  ((context.withClass "Blog\\User").withImport "Log" "\\Psr\\Log").withVariable
    ⟨"x", .ofList [.native .int, .native .null]⟩

end Described

open Described in
theorem Reader.document_context_compact_extended :
    extended.Built ∧ (∀ u, extended.file = some u → Url.ofText? u.text = some u) ∧
      Reader.document Reader.context extended.toJson.compact = .ok extended := by
  have hread : Reader.document Reader.context Described.text = .ok Described.context := by
    decide +kernel
  have hbuilt : extended.Built :=
    .withVariable (s := "?int") (.withImport (.withClass (.document hread) _) _ _) (by rfl)
  have hfile : ∀ u, extended.file = some u → Url.ofText? u.text = some u := by
    intro u hu
    cases hu
    decide +kernel
  exact ⟨hbuilt, hfile, Reader.document_context_compact hbuilt hfile⟩

end GotoDefinition
