import GotoDefinition.Text.Segments

/-!
# GotoDefinition.FileSystem

Files as far as they are asked for here: whether a path names a file, and the text of a file.

* `FileSystem` — the two questions, in any monad.
* `FileTree` — a tree of files in memory that answers them.
-/

namespace GotoDefinition

inductive FileError where
  | notFound
  | notDirectory
  | isDirectory
  | nameTooLong
  /-- The path holds the character with the number 0. -/
  | invalidPath
  /-- Any other reason, in the words of the system. -/
  | other (text : String)
  deriving DecidableEq, Repr

def FileError.message : FileError → String
  | .notFound => "No such file or directory (os error 2)"
  | .notDirectory => "Not a directory (os error 20)"
  | .isDirectory => "Is a directory (os error 21)"
  | .nameTooLong => "File name too long (os error 36)"
  | .invalidPath => "file name contained an unexpected NUL byte"
  | .other text => text

structure FileSystem (m : Type → Type) where
  isFile : String → m Bool
  readText : String → m (Except FileError String)

/-! ## Paths -/

namespace Path

def isAbsolute (path : String) : Bool :=
  path.toList.head? == some '/'

/-- An absolute path replaces the one it is put behind. -/
def join (base path : String) : String :=
  if isAbsolute path || base.isEmpty then path
  else if base.toList.getLast? == some '/' then base ++ path
  else base ++ "/" ++ path

end Path

/-! ## Trees in memory -/

inductive FileNode where
  | file (text : String)
  | directory
  /-- Read as an empty text, but no file. -/
  | device
  deriving DecidableEq

/-- Files, devices and empty directories, by the names on the way to them from the root. -/
structure FileTree where
  /-- The way to the working directory. -/
  workingDirectory : List String
  entries : List (List String × FileNode)

namespace FileTree

def names (path : String) : List String :=
  ((Text.segments '/' path.toList).filter (!·.isEmpty)).map String.ofList

/-- What every system has, whatever stands in the working directory. -/
def systemEntries : List (List String × FileNode) :=
  (["dev", "null"], .device) ::
    ["bin", "etc", "home", "lib", "opt", "proc", "root", "run", "sbin", "sys", "tmp", "usr",
      "var"].map fun name => ([name], .directory)

/-- A system with the entries below its working directory. -/
def ofEntries (workingDirectory : List String) (entries : List (List String × FileNode)) :
    FileTree :=
  ⟨workingDirectory, entries.map (fun e => (workingDirectory ++ e.1, e.2)) ++ systemEntries⟩

/-- Directories on the way to an entry and to the working directory are there too. -/
def isOnTheWay (t : FileTree) (location : List String) : Bool :=
  location.isPrefixOf t.workingDirectory || t.entries.any fun e => location.isPrefixOf e.1

/-- What the names lead to. -/
def at? (t : FileTree) (location : List String) : Option FileNode :=
  match t.entries.find? (·.1 == location) with
  | some (_, node) => some node
  | none => if t.isOnTheWay location then some .directory else none

/-- The most bytes of a name. -/
def nameLimit : Nat :=
  255

/-- The most bytes of a path. -/
def pathLimit : Nat :=
  4095

/-- Goes down the names from a location. Above the root is the root. -/
def descend (t : FileTree) (location : List String) (node : FileNode) :
    List String → Except FileError FileNode
  | [] => .ok node
  | name :: rest =>
    if node != .directory then .error .notDirectory
    else if name == "." then descend t location node rest
    else if name == ".." then descend t location.dropLast .directory rest
    else if nameLimit < name.utf8ByteSize then .error .nameTooLong
    else
      match t.at? (location ++ [name]) with
      | none => .error .notFound
      | some node => descend t (location ++ [name]) node rest

/-- Where a path starts. -/
def start (t : FileTree) (path : String) : List String :=
  if Path.isAbsolute path then [] else t.workingDirectory

/-- A path that ends in a slash names a directory. -/
def resolve (t : FileTree) (path : String) : Except FileError FileNode :=
  if path.toList.contains '\x00' then .error .invalidPath
  else if path.isEmpty then .error .notFound
  else if pathLimit < path.utf8ByteSize then .error .nameTooLong
  else
    match t.descend (t.start path) .directory (names path) with
    | .error e => .error e
    | .ok node =>
      if path.toList.getLast? == some '/' && node != .directory then .error .notDirectory
      else .ok node

def readText (t : FileTree) (path : String) : Except FileError String :=
  match t.resolve path with
  | .ok (.file text) => .ok text
  | .ok .device => .ok ""
  | .ok .directory => .error .isDirectory
  | .error e => .error e

def isFile (t : FileTree) (path : String) : Bool :=
  match t.resolve path with
  | .ok (.file _) => true
  | _ => false

def fileSystem (t : FileTree) : FileSystem Id where
  isFile := t.isFile
  readText := t.readText

end FileTree

end GotoDefinition
