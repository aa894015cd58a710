import GotoDefinition.Oracle

/-!
# GotoDefinition.Request

What has been found for a request, and the locations it is shown as.

* `Record.locations` — what one record is shown as.
* `Request.locations` — what all records are shown as, each location where it first occurs.
-/

namespace GotoDefinition

inductive Mode where
  | definition
  /-- The definition of the type is asked for. -/
  | typeDefinition
  deriving DecidableEq, Repr

def Mode.wantsType : Mode → Bool
  | .definition => false
  | .typeDefinition => true

inductive Record where
  /-- A declaration; the flag says that its declared type can be gone on to. -/
  | declaration (d : Declaration) (hasTarget : Bool)
  /-- A variable, shown as the classes of its type. -/
  | variableType (v : Variable)
  deriving DecidableEq

/-- Locations of the classes of a type; those that are not in the index are left out. -/
def SymbolIndex.typeLocations (index : SymbolIndex) (u : UnionType) : List Location :=
  (u.classes.filterMap index.findClass?).map ClassDecl.location

/-- The type that is shown in the place of a declaration. -/
def Declaration.followed? (d : Declaration) (mode : Mode) (hasTarget : Bool) : Option UnionType :=
  if mode.wantsType && hasTarget then d.declaredType? else none

def Record.locations (index : SymbolIndex) (mode : Mode) : Record → List Location
  | .declaration d hasTarget =>
    match d.followed? mode hasTarget with
    | some u => index.typeLocations u
    | none => [d.location]
  | .variableType v => index.typeLocations v.type

/-- Each element where it first occurs. -/
def firstOccurrences {α : Type} [DecidableEq α] (xs : List α) : List α :=
  xs.foldl (fun seen x => if x ∈ seen then seen else seen ++ [x]) []

structure Request where
  mode : Mode
  records : List Record
  deriving DecidableEq

inductive Response where
  | nothing
  | one (l : Location)
  | many (ls : List Location)
  deriving DecidableEq

def Response.ofLocations : List Location → Response
  | [] => .nothing
  | [l] => .one l
  | ls => .many ls

namespace Request

def start (mode : Mode) : Request :=
  ⟨mode, []⟩

def isEmpty (r : Request) : Bool :=
  r.records.isEmpty

def append (r : Request) (records : List Record) : Request :=
  { r with records := r.records ++ records }

def locations (r : Request) (index : SymbolIndex) : List Location :=
  firstOccurrences (r.records.flatMap (Record.locations index r.mode))

def response (r : Request) (index : SymbolIndex) : Response :=
  Response.ofLocations (r.locations index)

end Request

end GotoDefinition
