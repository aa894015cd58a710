import GotoDefinition.Proofs.Occurrences

/-!
# GotoDefinition.Proofs.Rendering

What a request is shown as.

Each record stands for some locations, its `expansion`: a declaration for its own one, a variable
and a declaration that is followed to its type for those of the classes of the type. Of all these a
request shows each where it first occurs, whichever record it comes from. So a location that one
record stands for hides the same location of every later record, and what has been shown stays.

* `Record.locations_eq_expansion` — the expansion kind by kind.
* `Request.locations_append` — what further records add.
* `Request.locations_perm` — what another order of the records changes.
* `Request.locations_append_only` — all of it, and the response that is made of the locations.
-/

namespace GotoDefinition

/-! ## Locations of a type -/

/-- The location of the class of a type, when the index has the class. A native type has none, and
every closure is of the class `Closure`. -/
def SymbolIndex.locationsOf (index : SymbolIndex) : Ty → List Location
  | .native _ => []
  | .instanceOf c => ((index.findClass? c).map ClassDecl.location).toList
  | .closure _ => ((index.findClass? (Name.ofText "Closure")).map ClassDecl.location).toList

/-- The same by way of the class, as the classes of a union are collected. -/
theorem SymbolIndex.locationsOf_eq_className? (index : SymbolIndex) (t : Ty) :
    index.locationsOf t = ((t.className?.bind index.findClass?).map ClassDecl.location).toList := by
  cases t with
  | native t => rfl
  | instanceOf c => rfl
  | closure f => rfl

theorem typeLocations_eq_flatMap (index : SymbolIndex) (u : UnionType) :
    index.typeLocations u = u.types.flatMap index.locationsOf := by
  rw [SymbolIndex.typeLocations, UnionType.classes, List.filterMap_filterMap, List.map_filterMap]
  induction u.types with
  | nil => rfl
  | cons t ts ih =>
    rw [List.flatMap_cons, ← ih, List.filterMap_cons, index.locationsOf_eq_className?]
    cases (t.className?.bind index.findClass?).map ClassDecl.location with
    | none => rfl
    | some l => rfl

/-! ## One record -/

/-- The locations that a record stands for. -/
def Record.expansion (index : SymbolIndex) : Mode → Record → List Location
  | .typeDefinition, .declaration (.property d) true => d.type.types.flatMap index.locationsOf
  | .typeDefinition, .declaration (.method d) true => d.returns.types.flatMap index.locationsOf
  | .typeDefinition, .declaration (.function d) true => d.returns.types.flatMap index.locationsOf
  | _, .declaration d _ => [d.location]
  | _, .variableType v => v.type.types.flatMap index.locationsOf

/-- A declaration without a type stands for itself, whatever the request asks for. -/
theorem Record.locations_eq_expansion (index : SymbolIndex) (mode : Mode) (record : Record) :
    record.locations index mode = record.expansion index mode := by
  cases record with
  | variableType v =>
    cases mode with
    | definition => exact typeLocations_eq_flatMap index v.type
    | typeDefinition => exact typeLocations_eq_flatMap index v.type
  | declaration d hasTarget =>
    cases mode with
    | definition => cases d <;> rfl
    | typeDefinition =>
      cases hasTarget with
      | false => cases d <;> rfl
      | true =>
        cases d with
        | property d => exact typeLocations_eq_flatMap index d.type
        | method d => exact typeLocations_eq_flatMap index d.returns
        | function d => exact typeLocations_eq_flatMap index d.returns
        | classLike d => rfl
        | classConstant d => rfl
        | constant d => rfl

/-! ## All records -/

namespace Request

variable {index : SymbolIndex} {r : Request}

theorem locations_eq_eraseDups (index : SymbolIndex) (r : Request) :
    r.locations index = (r.records.flatMap (Record.expansion index r.mode)).eraseDups := by
  have hrecords : Record.locations index r.mode = Record.expansion index r.mode :=
    funext (Record.locations_eq_expansion index r.mode)
  rw [locations, hrecords, firstOccurrences_eq_eraseDups]

theorem locations_append_eq (index : SymbolIndex) (r : Request) (added : List Record) :
    (r.append added).locations index =
      firstOccurrences (r.records.flatMap (Record.locations index r.mode) ++
        added.flatMap (Record.locations index r.mode)) :=
  congrArg firstOccurrences List.flatMap_append

/-- Further records add the locations they stand for that have not been shown, each once. -/
theorem locations_append (index : SymbolIndex) (r : Request) (added : List Record) :
    (r.append added).locations index =
      r.locations index ++
        ((added.flatMap (Record.locations index r.mode)).removeAll
          (r.locations index)).eraseDups := by
  rw [locations_append_eq, firstOccurrences_append_new]
  rfl

theorem locations_append_of_subset {added : List Record} (h : ∀ a ∈ added, a ∈ r.records) :
    (r.append added).locations index = r.locations index := by
  rw [locations_append_eq, firstOccurrences_append_of_subset]
  · rfl
  · intro l hl
    obtain ⟨a, ha, hla⟩ := List.mem_flatMap.mp hl
    exact List.mem_flatMap.mpr ⟨a, h a ha, hla⟩

theorem locations_perm {records : List Record} (h : records.Perm r.records) :
    (Request.locations ⟨r.mode, records⟩ index).Perm (r.locations index) :=
  firstOccurrences_perm (h.flatMap_right _)

end Request

/-! ## The response -/

namespace Response

theorem ofLocations_eq_nothing_iff {ls : List Location} :
    ofLocations ls = .nothing ↔ ls.length = 0 := by
  match ls with
  | [] => simp [ofLocations]
  | [_] => simp [ofLocations]
  | _ :: _ :: _ => simp [ofLocations]

theorem ofLocations_eq_one_iff {ls : List Location} {l : Location} :
    ofLocations ls = .one l ↔ ls = [l] := by
  match ls with
  | [] => simp [ofLocations]
  | [_] => simp [ofLocations]
  | _ :: _ :: _ => simp [ofLocations]

theorem ofLocations_eq_many_iff {ls ms : List Location} :
    ofLocations ls = .many ms ↔ ls = ms ∧ 2 ≤ ls.length := by
  match ls with
  | [] => simp [ofLocations]
  | [_] => simp [ofLocations]
  | _ :: _ :: _ => simp [ofLocations]

end Response

/-- A request shows the locations that its records stand for, one record after the other, each where
it first occurs. No location is shown twice. Further records leave what is shown in place and add
behind it, and records that are there already add nothing; another order of the records is another
order of the same locations. The response is nothing, the only location, or all of them, as there
are none, one, or at least two. -/
theorem Request.locations_append_only (index : SymbolIndex) (r : Request) :
    r.locations index = (r.records.flatMap (Record.expansion index r.mode)).eraseDups ∧
    (r.locations index).Nodup ∧
    (∀ added, r.locations index <+: (r.append added).locations index) ∧
    (∀ added, (∀ a ∈ added, a ∈ r.records) →
      (r.append added).locations index = r.locations index) ∧
    (∀ records, records.Perm r.records →
      (Request.locations ⟨r.mode, records⟩ index).Perm (r.locations index)) ∧
    (r.response index = .nothing ↔ (r.locations index).length = 0) ∧
    (∀ l, r.response index = .one l ↔ r.locations index = [l]) ∧
    ∀ ls, r.response index = .many ls ↔
      r.locations index = ls ∧ 2 ≤ (r.locations index).length := by
  refine ⟨locations_eq_eraseDups index r, nodup_firstOccurrences _, fun added => ?_,
    fun _ => locations_append_of_subset, fun _ => locations_perm,
    Response.ofLocations_eq_nothing_iff, fun _ => Response.ofLocations_eq_one_iff,
    fun _ => Response.ofLocations_eq_many_iff⟩
  rw [locations_append]
  exact List.prefix_append ..

/-! ## Types shown beside declarations -/

namespace Request

namespace Board

def atLine (line : UInt32) : Location :=
  ⟨⟨"file:///src/board.php"⟩, ⟨⟨line, 0⟩, ⟨line, 0⟩⟩⟩

def user : ClassDecl :=
  ⟨Name.ofText "User", .ordinary, atLine 3⟩

def guest : ClassDecl :=
  ⟨Name.ofText "Guest", .ordinary, atLine 21⟩

def closure : ClassDecl :=
  ⟨Name.ofText "Closure", .ordinary, atLine 30⟩

def find? (c : ClassName) : Option ClassDecl :=
  [user, guest, closure].find? (·.name.same c)

def index : SymbolIndex :=
  ⟨fun c => (find? c).isSome, find?⟩

/-- `?USER $owner` of a board. -/
def owner : Declaration :=
  .property ⟨⟨Name.ofText "Board", "owner"⟩, false,
    UnionType.ofList [.instanceOf (Name.ofText "USER"), .native .null], atLine 8⟩

/-- `visitor(): Robot|Guest`, where `Robot` is no class of the index. -/
def visitor : Declaration :=
  .method ⟨⟨Name.ofText "Board", "visitor"⟩, false,
    UnionType.ofList [.instanceOf (Name.ofText "Robot"), .instanceOf (Name.ofText "Guest")],
    atLine 12⟩

def hook : Variable :=
  .named "$hook" (UnionType.ofList [.closure (Name.ofText "greet")])

def request : Request :=
  ⟨.typeDefinition, [.declaration (.classLike user) false, .declaration owner true,
    .declaration visitor true, .variableType hook, .declaration owner false]⟩

end Board

open Board in
/-- The type of the owner is hidden by the class that is shown already. The visitor and the hook are
shown as classes that no other record stands for. Asking once more for the owner adds nothing. -/
theorem locations_append_only_board :
    request.locations index = [atLine 3, atLine 21, atLine 30, atLine 8] ∧
    (∀ a ∈ [Record.declaration owner true], a ∈ request.records) ∧
    (request.append [.declaration owner true]).locations index =
      [atLine 3, atLine 21, atLine 30, atLine 8] ∧
    request.records.reverse.Perm request.records ∧
    (Request.locations ⟨.typeDefinition, request.records.reverse⟩ index).Perm
      [atLine 3, atLine 21, atLine 30, atLine 8] ∧
    request.response index = .many [atLine 3, atLine 21, atLine 30, atLine 8] := by
  obtain ⟨hshown, _, _, hagain, horder, _, _, hmany⟩ := locations_append_only index request
  have hlocations : request.locations index = [atLine 3, atLine 21, atLine 30, atLine 8] := by
    rw [hshown]
    decide +kernel
  have hmem : ∀ a ∈ [Record.declaration owner true], a ∈ request.records :=
    List.forall_mem_singleton.mpr (List.mem_cons_of_mem _ List.mem_cons_self)
  have hperm := List.reverse_perm request.records
  refine ⟨hlocations, hmem, ?_, hperm, ?_, ?_⟩
  · rw [hagain _ hmem, hlocations]
  · rw [← hlocations]
    exact horder _ hperm
  · rw [hmany, hlocations]
    exact ⟨rfl, by decide⟩

end Request

end GotoDefinition
