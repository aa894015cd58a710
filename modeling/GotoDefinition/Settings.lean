import GotoDefinition.Config
import GotoDefinition.FileSystem
import GotoDefinition.Json.Reader

/-!
# GotoDefinition.Settings

Finding and reading files: settings, and documents in JSON.

The settings of a project are in its root; where there are none the settings of the user count, and
where there are none either, the defaults. A settings file that cannot be read is a failure, one
that is not there is not.
-/

namespace GotoDefinition

inductive LoadError where
  | unreadable (path : String) (e : FileError)
  /-- Not the settings that a settings file may hold. -/
  | badConfig (path : String)
  /-- Not the document that was expected. -/
  | badDocument (e : ReadError)
  deriving DecidableEq, Repr

def LoadError.message : LoadError → String
  | .unreadable path e => "failed to read " ++ path ++ ": " ++ e.message
  | .badConfig path => "invalid config " ++ path
  | .badDocument _ => "invalid JSON"

/-- The directories that the surroundings of the program name. -/
structure Environment where
  home : Option String
  configHome : Option String

/-- Only an absolute directory counts; the usual one is in the home directory. -/
def Environment.configDirectory? (env : Environment) : Option String :=
  match env.home with
  | none => none
  | some home =>
    match env.configHome with
    | some dir => if Path.isAbsolute dir then some dir else some (Path.join home ".config")
    | none => some (Path.join home ".config")

def Environment.userConfig? (env : Environment) : Option String :=
  env.configDirectory?.map fun dir => Path.join (Path.join dir "phpantom") "config.toml"

def configFileName : String :=
  ".phpantom.toml"

namespace FileSystem

variable {m : Type → Type} [Monad m]

def readConfig (fs : FileSystem m) (path : String) : m (Except LoadError Config) := do
  match ← fs.readText path with
  | .error e => return .error (.unreadable path e)
  | .ok text =>
    match Config.ofText? text with
    | some c => return .ok c
    | none => return .error (.badConfig path)

/-- The settings for the project in a directory. -/
def findConfig (fs : FileSystem m) (env : Environment) (root : String) :
    m (Except LoadError Config) := do
  let project := Path.join root configFileName
  if ← fs.isFile project then fs.readConfig project
  else
    match env.userConfig? with
    | none => return .ok Config.default
    | some user => if ← fs.isFile user then fs.readConfig user else return .ok Config.default

def readDocument {α : Type} (fs : FileSystem m) (read : Reader α) (path : String) :
    m (Except LoadError α) := do
  match ← fs.readText path with
  | .error e => return .error (.unreadable path e)
  | .ok text =>
    match Reader.document read text with
    | .ok a => return .ok a
    | .error e => return .error (.badDocument e)

end FileSystem

end GotoDefinition
