import GotoDefinition.Toml.Basic
import GotoDefinition.Toml.Scalar

/-!
# GotoDefinition.Toml.Text

Reading a TOML text.

The text is read expression by expression: a comment, a header, or a key with its value. Values are
read with a bound on their nesting that the length of the text satisfies.
-/

namespace GotoDefinition

namespace Toml

abbrev Parse (α : Type) :=
  List Char → Option (α × List Char)

/-! ## Blanks and comments -/

def isBlank (c : Char) : Bool :=
  c == ' ' || c == '\t'

def skipBlanks (cs : List Char) : List Char :=
  cs.dropWhile isBlank

/-- Characters that may stand in a comment or a literal string. -/
def isPlain (c : Char) : Bool :=
  c == '\t' || (0x20 ≤ c.toNat && c.toNat != 0x7F)

/-- The rest of a line that holds nothing but a comment; the line end is left. -/
def skipComment (cs : List Char) : Option (List Char) :=
  match cs with
  | '#' :: rest =>
    match rest.dropWhile isPlain with
    | [] => some []
    | '\n' :: tail => some ('\n' :: tail)
    | '\r' :: '\n' :: tail => some ('\n' :: tail)
    | _ => none
  | cs => some cs

/-- What follows a line end. -/
def lineEnd? (cs : List Char) : Option (List Char) :=
  match cs with
  | '\n' :: rest => some rest
  | '\r' :: '\n' :: rest => some rest
  | _ => none

/-- Blanks, comments and line ends. -/
def skipLines (fuel : Nat) (cs : List Char) : Option (List Char) :=
  match fuel with
  | 0 => none
  | fuel + 1 =>
    match skipComment (skipBlanks cs) with
    | none => none
    | some rest =>
      match lineEnd? rest with
      | none => some rest
      | some rest => skipLines fuel rest

/-! ## Strings -/

def scalarValue? (n : Nat) : Option Char :=
  if h : n.isValidChar then some (Char.ofNatAux n h) else none

def hexChar? (width : Nat) (cs : List Char) : Option (Char × List Char) :=
  if (cs.take width).length < width then none
  else ((Text.hexNumber? (cs.take width)).bind scalarValue?).map fun c => (c, cs.drop width)

/-- The character of an escape, behind its backslash. -/
def escape? : List Char → Option (Char × List Char)
  | 'b' :: rest => some ('\x08', rest)
  | 't' :: rest => some ('\t', rest)
  | 'n' :: rest => some ('\n', rest)
  | 'f' :: rest => some ('\x0c', rest)
  | 'r' :: rest => some ('\r', rest)
  | 'e' :: rest => some ('\x1b', rest)
  | '"' :: rest => some ('"', rest)
  | '\\' :: rest => some ('\\', rest)
  | 'x' :: rest => hexChar? 2 rest
  | 'u' :: rest => hexChar? 4 rest
  | 'U' :: rest => hexChar? 8 rest
  | _ => none

/-- A string in double quotes, behind the first. -/
def basicString (fuel : Nat) (done : List Char) (cs : List Char) : Option (String × List Char) :=
  match fuel, cs with
  | _, '"' :: rest => some (String.ofList done.reverse, rest)
  | fuel + 1, '\\' :: rest =>
    match escape? rest with
    | some (c, rest) => basicString fuel (c :: done) rest
    | none => none
  | fuel + 1, c :: rest => if isPlain c then basicString fuel (c :: done) rest else none
  | _, _ => none

/-- A string in apostrophes, behind the first. -/
def literalString (cs : List Char) : Option (String × List Char) :=
  let isInside (c : Char) : Bool := isPlain c && c != '\''
  match cs.dropWhile isInside with
  | '\'' :: rest => some (String.ofList (cs.takeWhile isInside), rest)
  | _ => none

/-- Up to two quotes in front of the three that end a string belong to it. -/
def closeQuotes (quote : Char) (done cs : List Char) : Option (String × List Char) :=
  let count := (cs.takeWhile (· == quote)).length
  if 5 < count then none
  else some (String.ofList (done.reverse ++ List.replicate (count - 3) quote), cs.drop count)

def startsWithThree (quote : Char) (cs : List Char) : Bool :=
  cs.take 3 == [quote, quote, quote]

def skipBlankLines : List Char → List Char
  | '\r' :: '\n' :: rest => skipBlankLines rest
  | c :: rest => if isBlank c || c == '\n' then skipBlankLines rest else c :: rest
  | [] => []

/-- Behind a backslash at the end of a line, blanks and line ends are dropped. -/
def skipFold (cs : List Char) : Option (List Char) :=
  (lineEnd? (skipBlanks cs)).map skipBlankLines

/-- A string in three quotes, behind them and a line end that follows them. -/
def longString (fuel : Nat) (quote : Char) (done cs : List Char) : Option (String × List Char) :=
  match fuel with
  | 0 => none
  | fuel + 1 =>
    if startsWithThree quote cs then closeQuotes quote done cs
    else
      match cs with
      | '\n' :: rest => longString fuel quote ('\n' :: done) rest
      | '\r' :: '\n' :: rest => longString fuel quote ('\n' :: '\r' :: done) rest
      | '\\' :: rest =>
        if quote == '\'' then longString fuel quote ('\\' :: done) rest
        else
          match escape? rest with
          | some (c, rest) => longString fuel quote (c :: done) rest
          | none =>
            match skipFold rest with
            | some rest => longString fuel quote done rest
            | none => none
      | c :: rest => if isPlain c then longString fuel quote (c :: done) rest else none
      | [] => none

def afterFirstLineEnd (cs : List Char) : List Char :=
  (lineEnd? cs).getD cs

/-- Any string value. -/
def stringValue (cs : List Char) : Option (String × List Char) :=
  match cs with
  | '"' :: '"' :: '"' :: rest => longString cs.length '"' [] (afterFirstLineEnd rest)
  | '\'' :: '\'' :: '\'' :: rest => longString cs.length '\'' [] (afterFirstLineEnd rest)
  | '"' :: rest => basicString cs.length [] rest
  | '\'' :: rest => literalString rest
  | _ => none

/-! ## Keys -/

def isBareKeyChar (c : Char) : Bool :=
  c.isAlphanum || c == '_' || c == '-'

def simpleKey (cs : List Char) : Option (String × List Char) :=
  match cs with
  | '"' :: rest => basicString cs.length [] rest
  | '\'' :: rest => literalString rest
  | cs =>
    match cs.takeWhile isBareKeyChar with
    | [] => none
    | key => some (String.ofList key, cs.dropWhile isBareKeyChar)

/-- Keys between dots, and the blanks behind them. -/
def dottedKey (fuel : Nat) (cs : List Char) : Option (List String × List Char) :=
  match fuel with
  | 0 => none
  | fuel + 1 =>
    match simpleKey (skipBlanks cs) with
    | none => none
    | some (key, rest) =>
      match skipBlanks rest with
      | '.' :: rest => (dottedKey fuel rest).map fun (path, rest) => (key :: path, rest)
      | rest => some ([key], rest)

/-! ## Values -/

def scalarToken (cs : List Char) : Option (Toml × List Char) :=
  let (token, rest) := takeScalar cs
  match String.ofList token with
  | "true" => some (.bool true, rest)
  | "false" => some (.bool false, rest)
  | _ => if isScalar token then some (.scalar, rest) else none

/-- Arrays and inline tables may stand in each other this deep. -/
def nestingLimit : Nat :=
  80

mutual

def value (fuel depth : Nat) (cs : List Char) : Option (Toml × List Char) :=
  match fuel, depth, cs with
  | fuel + 1, depth + 1, '[' :: rest => arrayItems fuel depth [] rest
  | fuel + 1, depth + 1, '\x7b' :: rest => inlineFields fuel depth [] rest
  | _, _, '"' :: _ => (stringValue cs).map fun (s, rest) => (.string s, rest)
  | _, _, '\'' :: _ => (stringValue cs).map fun (s, rest) => (.string s, rest)
  | _, _, _ => scalarToken cs

/-- The items of an array, behind its bracket or a comma. -/
def arrayItems (fuel depth : Nat) (done : List Toml) (cs : List Char) :
    Option (Toml × List Char) :=
  match fuel with
  | 0 => none
  | fuel + 1 =>
    match skipLines cs.length.succ cs with
    | some (']' :: rest) => some (.array done.reverse, rest)
    | some cs =>
      match value fuel depth cs with
      | none => none
      | some (v, rest) =>
        match skipLines rest.length.succ rest with
        | some (',' :: rest) => arrayItems fuel depth (v :: done) rest
        | some (']' :: rest) => some (.array (v :: done).reverse, rest)
        | _ => none
    | none => none

/-- The fields of an inline table, behind its brace or a comma. Key, `=` and value may stand on
lines of their own. -/
def inlineFields (fuel depth : Nat) (done : TableFields) (cs : List Char) :
    Option (Toml × List Char) :=
  match fuel with
  | 0 => none
  | fuel + 1 =>
    match skipLines cs.length.succ cs with
    | some ('\x7d' :: rest) => some (.table .inline done, rest)
    | some cs =>
      match dottedKey cs.length.succ cs with
      | some (path, rest) =>
        match skipLines rest.length.succ rest with
        | some ('=' :: rest) =>
          match (skipLines rest.length.succ rest).bind (value fuel depth) with
          | none => none
          | some (v, rest) =>
            match assign path v done, skipLines rest.length.succ rest with
            | some done, some (',' :: rest) => inlineFields fuel depth done rest
            | some done, some ('\x7d' :: rest) => some (.table .inline done, rest)
            | _, _ => none
        | _ => none
      | none => none
    | none => none

end

/-! ## Documents -/

/-- What has been read, and the header that keys belong under. -/
structure State where
  root : TableFields
  header : List String

def State.assign (st : State) (path : List String) (v : Toml) : Option State :=
  match st.header with
  | [] => (Toml.assign path v st.root).map fun root => { st with root := root }
  | header =>
    (within (assignUnder path v) header st.root).map fun root => { st with root := root }

def State.head (st : State) (change : Option Toml → Option Toml) (path : List String) :
    Option State :=
  (within change path st.root).map fun root => ⟨root, path⟩

/-- Reads one header or key with its value. -/
def expression (st : State) (cs : List Char) : Option (State × List Char) :=
  match cs with
  | '[' :: '[' :: rest =>
    match dottedKey rest.length.succ rest with
    | some (path, ']' :: ']' :: rest) => (st.head openElement path).map (·, rest)
    | _ => none
  | '[' :: rest =>
    match dottedKey rest.length.succ rest with
    | some (path, ']' :: rest) => (st.head openTable path).map (·, rest)
    | _ => none
  | cs =>
    match dottedKey cs.length.succ cs with
    | some (path, '=' :: rest) =>
      match value rest.length.succ nestingLimit (skipBlanks rest) with
      | some (v, rest) => (st.assign path v).map (·, rest)
      | none => none
    | _ => none

/-- Reads the lines of a document. -/
def lines (fuel : Nat) (st : State) (cs : List Char) : Option TableFields :=
  match fuel with
  | 0 => none
  | fuel + 1 =>
    match skipLines cs.length.succ cs with
    | none => none
    | some [] => some st.root
    | some cs =>
      match expression st cs with
      | none => none
      | some (st, rest) =>
        match skipComment (skipBlanks rest) with
        | none => none
        | some [] => some st.root
        | some rest =>
          match lineEnd? rest with
          | some rest => lines fuel st rest
          | none => none

/-- A byte order mark in front of the text is skipped. -/
def ofText? (s : String) : Option TableFields :=
  let cs :=
    match s.toList with
    | '\ufeff' :: rest => rest
    | cs => cs
  lines cs.length.succ ⟨[], []⟩ cs

end Toml

end GotoDefinition
