import GotoDefinition.CodeBase.Inference
import GotoDefinition.Document.Context
import GotoDefinition.Document.Node
import GotoDefinition.Document.Snapshot
import GotoDefinition.Json.Print
import GotoDefinition.Settings

/-!
# GotoDefinition.CommandLine

The program: answers one query about one snapshot.

* `Arguments.ofList` — the arguments of a call, or what is to be done instead.
* `Reader.query` and `Response.toJson` — what is asked and what is answered, as documents.
* `run` — the outcome of a call. Settings are read first, then the snapshot, then the query.
-/

namespace GotoDefinition

/-! ## Arguments -/

structure Arguments where
  snapshot : String
  query : String
  typeDefinition : Bool
  config : Option String
  root : String
  deriving DecidableEq

inductive Call where
  | answer (args : Arguments)
  | version
  | help
  | misuse
  deriving DecidableEq

/-- The arguments met so far. -/
structure Arguments.Found where
  paths : List String
  typeDefinition : Bool
  config : Option String
  root : Option String

namespace Arguments

def Found.empty : Found :=
  ⟨[], false, none, none⟩

/-- Two files are named, snapshot and query. -/
def Found.addPath (p : Found) (path : String) : Option Found :=
  if path.isEmpty || p.paths.length = 2 then none
  else some { p with paths := p.paths ++ [path] }

/-- An option is given once, and not with an empty value. -/
def Found.setConfig (p : Found) (path : String) : Option Found :=
  if path.isEmpty || p.config.isSome then none else some { p with config := some path }

def Found.setRoot (p : Found) (path : String) : Option Found :=
  if path.isEmpty || p.root.isSome then none else some { p with root := some path }

def Found.setTypeDefinition (p : Found) : Option Found :=
  if p.typeDefinition then none else some { p with typeDefinition := true }

def Found.finish (p : Found) : Call :=
  match p.paths with
  | [snapshot, query] =>
    .answer ⟨snapshot, query, p.typeDefinition, p.config, p.root.getD "."⟩
  | _ => .misuse

/-- A lone `-` is a path. -/
def looksLikeOption (arg : String) : Bool :=
  arg.toList.head? == some '-' && arg != "-"

/-- The value in an argument `--name=value`. -/
def attached? (name arg : String) : Option String :=
  let opening := (name ++ "=").toList
  if opening.isPrefixOf arg.toList then some (String.ofList (arg.toList.drop opening.length))
  else none

/-- Arguments behind `--` are paths. -/
def paths (p : Found) : List String → Call
  | [] => p.finish
  | arg :: rest =>
    match p.addPath arg with
    | some p => paths p rest
    | none => .misuse

/-- The first of several short options decides. -/
def shortOption (arg : String) : Call :=
  match arg.toList with
  | _ :: 'V' :: _ => .version
  | _ :: 'h' :: _ => .help
  | _ => .misuse

def read (p : Found) : List String → Call
  | [] => p.finish
  | "--" :: rest => paths p rest
  | "--version" :: _ => .version
  | "--help" :: _ => .help
  | "--type-definition" :: rest =>
    match p.setTypeDefinition with
    | some p => read p rest
    | none => .misuse
  | "--config" :: path :: rest =>
    if looksLikeOption path then .misuse
    else
      match p.setConfig path with
      | some p => read p rest
      | none => .misuse
  | "--root" :: path :: rest =>
    if looksLikeOption path then .misuse
    else
      match p.setRoot path with
      | some p => read p rest
      | none => .misuse
  | arg :: rest =>
    match attached? "--config" arg, attached? "--root" arg with
    | some path, _ =>
      match p.setConfig path with
      | some p => read p rest
      | none => .misuse
    | none, some path =>
      match p.setRoot path with
      | some p => read p rest
      | none => .misuse
    | none, none =>
      if "--".toList.isPrefixOf arg.toList then .misuse
      else if looksLikeOption arg then shortOption arg
      else
        match p.addPath arg with
        | some p => read p rest
        | none => .misuse

def ofList (args : List String) : Call :=
  read Found.empty args

end Arguments

/-! ## Queries and responses -/

/-- A node, its context, and whether its type is asked for. -/
structure Query where
  context : Context
  node : Node
  typeDefinition : Bool

def Query.mode (q : Query) : Mode :=
  if q.typeDefinition then .typeDefinition else .definition

def Reader.query : Reader Query := fun v =>
  let fields := Fields.optional "context" context .empty <| .required "node" (node 1) <|
    .optional "type_definition" bool false .nil
  match fields.read .refused v with
  | .error e => .error e
  | .ok (context, node, typeDefinition, ()) => .ok ⟨context, node, typeDefinition⟩

def Response.toJson : Response → Json
  | .nothing => .null
  | .one l => l.toJson
  | .many ls => .array (ls.map Location.toJson)

/-! ## Running -/

def programName : String :=
  "phpantom-definition"

def versionText : String :=
  programName ++ " 0.7.0\n"

inductive Outcome where
  | printed (text : String)
  | failed (message : String)
  | misused
  deriving DecidableEq

namespace Outcome

def exitCode : Outcome → Nat
  | .printed _ => 0
  | .failed _ => 1
  | .misused => 2

end Outcome

/-- Answers a query about a code base. Either side may ask for the definition of the type. -/
def answer (config : Config) (cb : CodeBase) (q : Query) (typeDefinition : Bool) : Response :=
  let mode : Mode := if typeDefinition then .typeDefinition else q.mode
  let request := (cb.resolver config.toggles).resolve q.context q.node (Request.start mode)
  request.response cb.index

def runArguments {m : Type → Type} [Monad m] (fs : FileSystem m) (env : Environment)
    (args : Arguments) : m (Except LoadError Response) := do
  let config ←
    match args.config with
    | some path => fs.readConfig path
    | none => fs.findConfig env args.root
  match config with
  | .error e => return .error e
  | .ok config =>
    match ← fs.readDocument Reader.snapshot args.snapshot with
    | .error e => return .error e
    | .ok snapshot =>
      match ← fs.readDocument Reader.query args.query with
      | .error e => return .error e
      | .ok q => return .ok (answer config (CodeBase.ofSnapshot snapshot) q args.typeDefinition)

def usageText : String :=
  "Usage: " ++ programName ++ " [OPTIONS] <SNAPSHOT> <QUERY>\n"

def run {m : Type → Type} [Monad m] (fs : FileSystem m) (env : Environment)
    (args : List String) : m Outcome := do
  match Arguments.ofList args with
  | .version => return .printed versionText
  | .help => return .printed usageText
  | .misuse => return .misused
  | .answer args =>
    match ← runArguments fs env args with
    | .ok response => return .printed (response.toJson.pretty ++ "\n")
    | .error e => return .failed e.message

end GotoDefinition
