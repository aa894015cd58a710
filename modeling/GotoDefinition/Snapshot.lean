import GotoDefinition.Declaration

/-!
# GotoDefinition.Snapshot

What a project declares, as listed by an indexer.
-/

namespace GotoDefinition

structure PropertyEntry where
  /-- With or without the `$` in front. -/
  name : String
  line : UInt32
  isStatic : Bool
  type : UnionType
  deriving DecidableEq

structure MethodEntry where
  name : String
  line : UInt32
  isStatic : Bool
  returns : UnionType
  deriving DecidableEq

/-- A class constant or the case of an enumeration. -/
structure ClassConstantEntry where
  name : String
  line : UInt32
  deriving DecidableEq

structure ClassEntry where
  name : ClassName
  kind : ClassKind
  file : Url
  line : UInt32
  parent : Option ClassName
  interfaces : List ClassName
  traits : List ClassName
  properties : List PropertyEntry
  methods : List MethodEntry
  constants : List ClassConstantEntry
  deriving DecidableEq

structure FunctionEntry where
  name : FunctionName
  file : Url
  line : UInt32
  returns : UnionType
  deriving DecidableEq

structure ConstantEntry where
  name : ConstantName
  file : Url
  line : UInt32
  deriving DecidableEq

structure Snapshot where
  classes : List ClassEntry
  functions : List FunctionEntry
  constants : List ConstantEntry
  deriving DecidableEq

def Snapshot.empty : Snapshot :=
  ⟨[], [], []⟩

/-! ## Declarations of the entries -/

namespace ClassEntry

def decl (e : ClassEntry) : ClassDecl :=
  ⟨e.name, e.kind, Location.atLine e.file e.line⟩

/-- The property is reported under the name that was asked for, without a `$`. -/
def findProperty? (e : ClassEntry) (name : String) (isStatic : Bool) : Option PropertyDecl :=
  let bare := Text.stripLeading '$' name
  let found := e.properties.find? fun p =>
    Text.stripLeading '$' p.name == bare && p.isStatic == isStatic
  found.map fun p => ⟨⟨e.name, bare⟩, p.isStatic, p.type, Location.atLine e.file p.line⟩

/-- Methods are found in any case and reported as declared. -/
def findMethod? (e : ClassEntry) (name : String) : Option MethodDecl :=
  (e.methods.find? (Text.alike ·.name name)).map fun m =>
    ⟨⟨e.name, m.name⟩, m.isStatic, m.returns, Location.atLine e.file m.line⟩

def findConstant? (e : ClassEntry) (name : String) : Option ClassConstantDecl :=
  (e.constants.find? (·.name == name)).map fun c =>
    ⟨⟨e.name, name⟩, Location.atLine e.file c.line⟩

end ClassEntry

def FunctionEntry.decl (e : FunctionEntry) : FunctionDecl :=
  ⟨e.name, e.returns, Location.atLine e.file e.line⟩

def ConstantEntry.decl (e : ConstantEntry) : ConstantDecl :=
  ⟨e.name, Location.atLine e.file e.line⟩

end GotoDefinition
