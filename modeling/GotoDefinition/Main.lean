import GotoDefinition.CommandLine

/-!
# GotoDefinition.Main

The command line on the files of the system.
-/

namespace GotoDefinition

def fileError : IO.Error → FileError
  | .noFileOrDirectory _ _ _ => .notFound
  | .inappropriateType _ 20 _ => .notDirectory
  | .inappropriateType _ _ _ => .isDirectory
  | .invalidArgument _ 36 _ => .nameTooLong
  | .permissionDenied _ code details => .other (details ++ " (os error " ++ toString code ++ ")")
  | .userError _ => .other "stream did not contain valid UTF-8"
  | e => .other (toString e)

def readSystemFile (path : String) : IO (Except FileError String) := do
  try
    return .ok (← IO.FS.readFile path)
  catch e => return .error (fileError e)

/-- A file is there when it can be read, or cannot be read for a reason of its own. -/
def isSystemFile (path : String) : IO Bool := do
  match ← readSystemFile path with
  | .ok _ => return true
  | .error (.other _) => return true
  | .error _ => return false

def systemFiles : FileSystem IO where
  isFile := isSystemFile
  readText := readSystemFile

end GotoDefinition

open GotoDefinition in
def main (args : List String) : IO UInt32 := do
  let env : Environment := ⟨← IO.getEnv "HOME", ← IO.getEnv "XDG_CONFIG_HOME"⟩
  let outcome ← run systemFiles env args
  match outcome with
  | .printed text => IO.print text
  | .failed message => IO.eprintln (programName ++ ": " ++ message)
  | .misused => IO.eprint usageText
  return UInt32.ofNat outcome.exitCode
