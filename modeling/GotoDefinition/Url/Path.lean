import GotoDefinition.Text.Segments
import GotoDefinition.Url.Percent

/-!
# GotoDefinition.Url.Path

The path of a hierarchical URL in its normal form: escaped, without dot segments and, for a file,
with drive letters in their usual spelling.

Tabs and line ends count for nothing in a path, except that one behind a drive at the start of a
file path ends the level of the drive.
-/

namespace GotoDefinition

structure UrlPath where
  levels : List (List Char)
  /-- Whether the first level has been written as a drive, which leaves no room for a host. -/
  drive : Bool

namespace UrlPath

def isSlash (special : Bool) (c : Char) : Bool :=
  c == '/' || (special && c == '\\')

def splitSlashes (special : Bool) (cs : List Char) : List (List Char) :=
  Text.segments '/' (cs.map fun c => if isSlash special c then '/' else c)

/-! ## Tabs and line ends -/

def isBreak (c : Char) : Bool :=
  c == '\t' || c == '\n' || c == '\r'

def skipBreaks (cs : List Char) : List Char :=
  cs.dropWhile isBreak

def dropBreaks (cs : List Char) : List Char :=
  cs.filter (!isBreak ·)

/-! ## Dots -/

def lowered (cs : List Char) : String :=
  String.ofList (cs.map Char.toLower)

def isSingleDot (cs : List Char) : Bool :=
  [".", "%2e"].contains (lowered cs)

def isDoubleDot (cs : List Char) : Bool :=
  ["..", ".%2e", "%2e.", "%2e%2e"].contains (lowered cs)

/-! ## Drives -/

/-- A letter, then `:` or `|`. -/
def isDrive : List Char → Bool
  | [a, b] => a.isAlpha && (b == ':' || b == '|')
  | _ => false

/-- A drive in its usual spelling. -/
def normalDrive : List Char → List Char
  | [a, b] => if isDrive [a, b] then [a, ':'] else [a, b]
  | segment => segment

/-- A level that `..` does not take off: a drive, alone or before a backslash. -/
def isKept (segment : List Char) : Bool :=
  isDrive (segment.take 2) && (segment.drop 2).head?.all (· == '\\')

/-- A drive, and what stands in the same segment behind it and a tab or line end. -/
def brokenDrive? (cs : List Char) : Option (List Char × List Char) :=
  match skipBreaks cs with
  | [] => none
  | a :: rest =>
    match skipBreaks rest with
    | ':' :: b :: rest =>
      if a.isAlpha && isBreak b && !(skipBreaks rest).isEmpty then some ([a, ':'], rest) else none
    | _ => none

/-! ## Normal form -/

def escaped (cs : List Char) : List Char :=
  Percent.encode Percent.path (dropBreaks cs)

/-- Takes a level off, but never a drive. -/
def shorten (p : UrlPath) : UrlPath :=
  match p.levels.getLast? with
  | none => p
  | some last => if isKept last then p else { p with levels := p.levels.dropLast }

def add (p : UrlPath) (levels : List (List Char)) : UrlPath :=
  { p with levels := p.levels ++ levels }

/-- The first segment of a file path, which may be a drive. -/
def startFile (cs : List Char) : UrlPath :=
  match brokenDrive? cs with
  | some (drive, rest) => ⟨[drive, escaped rest], false⟩
  | none => ⟨[normalDrive (escaped cs)], isDrive (escaped cs)⟩

/-- Takes the segments in turn. -/
def normalize (file : Bool) : UrlPath → List (List Char) → UrlPath
  | p, [] => p
  | p, cs :: rest =>
    if isDoubleDot (escaped cs) then
      normalize file (if rest.isEmpty then p.shorten.add [[]] else p.shorten) rest
    else if isSingleDot (escaped cs) then
      normalize file (if rest.isEmpty then p.add [[]] else p) rest
    else if file && p.levels.isEmpty then normalize file (startFile cs) rest
    else normalize file (p.add [escaped cs]) rest

/-- The path of a text whose first slash has been taken off. -/
def ofText (special file : Bool) (cs : List Char) : UrlPath :=
  normalize file ⟨[], false⟩ (splitSlashes special cs)

/-- A file path does not start with an empty level. -/
def dropEmptyLevels (p : UrlPath) : UrlPath :=
  match p.levels.dropWhile List.isEmpty with
  | [] => { p with levels := [[]] }
  | levels => { p with levels := levels }

def print (p : UrlPath) : List Char :=
  p.levels.flatMap ('/' :: ·)

end UrlPath

end GotoDefinition
