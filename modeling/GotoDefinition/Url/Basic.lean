import GotoDefinition.Text.Segments
import GotoDefinition.Url.Host
import GotoDefinition.Url.Path

/-!
# GotoDefinition.Url.Basic

Absolute URLs in their normal form.

A text is read as scheme, authority, path, query and fragment; reading brings every part into its
normal form, and printing puts the parts together again. A text without a scheme is no URL.
-/

namespace GotoDefinition

/-- A URL, printed in its normal form. -/
structure Url where
  text : String
  deriving DecidableEq, Repr

namespace Url

inductive SchemeClass where
  | file
  /-- A scheme of the web, with a host. -/
  | web
  | other
  deriving DecidableEq

def schemeClass (scheme : String) : SchemeClass :=
  if scheme == "file" then .file
  else if ["http", "https", "ws", "wss", "ftp"].contains scheme then .web
  else .other

def defaultPort? (scheme : String) : Option Nat :=
  match scheme with
  | "http" => some 80
  | "ws" => some 80
  | "https" => some 443
  | "wss" => some 443
  | "ftp" => some 21
  | _ => none

/-- The parts of a URL, each in its normal form. -/
structure Parts where
  scheme : List Char
  authority : Option (List Char)
  path : List Char
  query : Option (List Char)
  fragment : Option (List Char)

/-- A path that starts with two slashes is kept apart from an authority by `/.`. -/
def Parts.print (p : Parts) : List Char :=
  let authority :=
    match p.authority with
    | some host => '/' :: '/' :: host
    | none => if p.path.take 2 = ['/', '/'] then ['/', '.'] else []
  let query := (p.query.map ('?' :: ·)).getD []
  let fragment := (p.fragment.map ('#' :: ·)).getD []
  p.scheme ++ ':' :: authority ++ p.path ++ query ++ fragment

/-! ## Parts of the text -/

/-- Control characters and blanks at both ends are dropped. -/
def trim (cs : List Char) : List Char :=
  let isEdge (c : Char) : Bool := c.toNat ≤ 0x20
  ((cs.dropWhile isEdge).reverse.dropWhile isEdge).reverse

def isSchemeChar (c : Char) : Bool :=
  c.isAlphanum || c == '+' || c == '-' || c == '.'

/-- The scheme in small letters, and what follows its colon. -/
def scheme? (cs : List Char) : Option (List Char × List Char) :=
  match cs.takeWhile isSchemeChar, cs.dropWhile isSchemeChar with
  | c :: name, ':' :: rest => if c.isAlpha then some ((c :: name).map Char.toLower, rest) else none
  | _, _ => none

def endsPath (c : Char) : Bool :=
  c == '?' || c == '#'

def query? (special : Bool) (cs : List Char) : Option (List Char) :=
  match cs.dropWhile (!endsPath ·) with
  | '?' :: rest =>
    let set := if special then Percent.specialQuery else Percent.query
    some (Percent.encode set (rest.takeWhile (· != '#')))
  | _ => none

def fragment? (cs : List Char) : Option (List Char) :=
  match cs.dropWhile (· != '#') with
  | _ :: rest => some (Percent.encode Percent.fragment rest)
  | [] => none

/-- Puts query and fragment of the rest of a text behind what has been read. -/
def finish (scheme : List Char) (special : Bool) (authority : Option (List Char))
    (path rest : List Char) : Parts :=
  ⟨scheme, authority, path, query? special rest, fragment? rest⟩

def pathText (cs : List Char) : List Char :=
  cs.takeWhile (!endsPath ·)

/-- The text without its first slash. -/
def dropSlash (special : Bool) : List Char → List Char
  | [] => []
  | c :: cs => if UrlPath.isSlash special c then cs else c :: cs

/-- A slash at the start of the text, and what follows it. -/
def slash? (cs : List Char) : Option (List Char) :=
  match UrlPath.skipBreaks cs with
  | [] => none
  | c :: rest => if UrlPath.isSlash true c then some rest else none

/-! ## Files -/

/-- A path on a drive drops the host. -/
def fileUrl (host pathStart rest : List Char) : Parts :=
  let path := UrlPath.ofText true true (pathText pathStart)
  finish ['f', 'i', 'l', 'e'] true (some (if path.drive then [] else host))
    path.dropEmptyLevels.print (UrlPath.dropBreaks rest)

/-- Reads what follows two slashes. A drive in the place of the host belongs to the path, and the
host `localhost` is dropped; without a host the slash in front of the path is a level of it. -/
def hostedFile? (cs : List Char) : Option Parts :=
  let isHost (c : Char) : Bool := !(UrlPath.isSlash true c || endsPath c)
  let host := UrlPath.dropBreaks (cs.takeWhile isHost)
  let rest := cs.dropWhile isHost
  if host.isEmpty || UrlPath.isDrive host then some (fileUrl [] cs cs)
  else
    (Host.special? host).map fun host =>
      if String.ofList host == "localhost" then fileUrl [] rest rest
      else fileUrl host (dropSlash true rest) rest

/-- Tabs and line ends are still in the text. -/
def fileParts? (cs : List Char) : Option Parts :=
  match slash? cs with
  | none => some (fileUrl [] cs cs)
  | some rest =>
    match slash? rest with
    | none => some (fileUrl [] rest rest)
    | some rest => hostedFile? rest

/-! ## Authorities -/

/-- What stands before the last `@`, and what stands after it. -/
def splitUser (authority : List Char) : Option (List Char) × List Char :=
  (Text.beforeLast? '@' authority, Text.lastSegment '@' authority)

/-- User and password, printed with the `@` behind them unless both are empty. -/
def userText (user : List Char) : List Char :=
  let name := Percent.encode Percent.userinfo (user.takeWhile (· != ':'))
  let password := Percent.encode Percent.userinfo ((user.dropWhile (· != ':')).drop 1)
  if name.isEmpty && password.isEmpty then []
  else name ++ (if password.isEmpty then [] else ':' :: password) ++ ['@']

/-- The host ends at the first colon outside brackets. -/
def hostText : Bool → List Char → List Char
  | _, [] => []
  | inside, c :: cs =>
    if c == ':' && !inside then []
    else c :: hostText (c == '[' || (inside && c != ']')) cs

/-- What stands behind the host, nothing for the usual number of the scheme, and the text that
follows. A backslash ends the number. -/
def portText? (scheme : List Char) (cs : List Char) : Option (List Char × List Char) :=
  match cs with
  | ':' :: cs =>
    let digits := cs.takeWhile Char.isDigit
    let rest := cs.dropWhile Char.isDigit
    if !rest.head?.all (· == '\\') then none
    else if digits.isEmpty then some ([], rest)
    else
      match Host.valueIn 10 digits with
      | none => none
      | some n =>
        if 65535 < n then none
        else if defaultPort? (String.ofList scheme) = some n then some ([], rest)
        else some (':' :: Host.decimal n, rest)
  | rest => some ([], rest)

/-- Whether the host may be left out: there is no user and no number beside it, and an `@` is the
last of the text. -/
def admitsNoHost (special : Bool) (user : Option (List Char)) (server rest : List Char) : Bool :=
  !special && server.isEmpty && ((user.map userText).getD []).isEmpty &&
    (user != some [] || rest.isEmpty)

/-- The authority, and the text of its end that belongs to the path. -/
def authority? (scheme : List Char) (special : Bool) (cs rest : List Char) :
    Option (List Char × List Char) :=
  let (user, server) := splitUser cs
  let name := hostText false server
  if name.isEmpty && !admitsNoHost special user server rest then none
  else
    match if special then Host.special? name else Host.opaqueHost? name,
      portText? scheme (server.drop name.length) with
    | some host, some (portText, left) =>
      some ((user.map userText).getD [] ++ host ++ portText, left)
    | _, _ => none

/-- Reads what follows the two slashes in front of an authority. -/
def hierarchical? (scheme : List Char) (special : Bool) (cs : List Char) : Option Parts :=
  let isAuthority (c : Char) : Bool := !(UrlPath.isSlash special c || endsPath c)
  let rest := cs.dropWhile isAuthority
  (authority? scheme special (cs.takeWhile isAuthority) rest).map fun (authority, left) =>
    let text := pathText (left ++ rest)
    let path :=
      if text.isEmpty && !special then []
      else (UrlPath.ofText special false (dropSlash special text)).print
    finish scheme special (some authority) path rest

def otherParts? (scheme cs : List Char) : Option Parts :=
  match cs with
  | '/' :: '/' :: rest => hierarchical? scheme false rest
  | '/' :: rest =>
    some (finish scheme false none (UrlPath.ofText false false (pathText rest)).print rest)
  | _ => some (finish scheme false none (Percent.encode Percent.controls (pathText cs)) cs)

/-! ## Reading -/

/-- Outside of file paths tabs and line ends are dropped. -/
def parts? (cs : List Char) : Option Parts :=
  let inner := trim cs
  match scheme? (UrlPath.dropBreaks inner) with
  | none => none
  | some (scheme, rest) =>
    match schemeClass (String.ofList scheme) with
    | .file => fileParts? ((inner.dropWhile (· != ':')).drop 1)
    | .web => hierarchical? scheme true (rest.dropWhile (UrlPath.isSlash true))
    | .other => otherParts? scheme rest

def ofText? (s : String) : Option Url :=
  (parts? s.toList).map fun p => ⟨String.ofList p.print⟩

end Url

end GotoDefinition
