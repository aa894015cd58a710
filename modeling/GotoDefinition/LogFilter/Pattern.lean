import GotoDefinition.Text.Alphanumeric
import GotoDefinition.Text.Digits

/-!
# GotoDefinition.LogFilter.Pattern

Which texts are patterns: characters and classes of characters, in groups and alternatives, each
with repetitions behind it. Whether a text matches a pattern is not asked here.

Repetitions with counts do not occur, because a brace ends the text that a pattern stands in.
-/

namespace GotoDefinition

namespace Pattern

/-! ## Characters behind a backslash -/

inductive Escape where
  | character (c : Char)
  | charClass
  /-- A place between characters. -/
  | anchor
  deriving DecidableEq, Repr

def letterEscape? : Char → Option Escape
  | 'a' => some (.character '\x07')
  | 'f' => some (.character '\x0c')
  | 'n' => some (.character '\n')
  | 'r' => some (.character '\r')
  | 't' => some (.character '\t')
  | 'v' => some (.character '\x0b')
  | 'A' => some .anchor
  | 'z' => some .anchor
  | c => if ['d', 'D', 's', 'S', 'w', 'W'].contains c then some .charClass else none

/-- A character given by a count of hexadecimal digits. -/
def numbered? (count : Nat) (cs : List Char) : Option (Escape × List Char) :=
  if (cs.take count).length < count then none
  else
    match Text.hexNumber? (cs.take count) with
    | some n =>
      if n.isValidChar then some (.character (Char.ofNat n), cs.drop count) else none
    | none => none

/-- The general categories, by their first letters. -/
def isCategory (c : Char) : Bool :=
  ['C', 'L', 'M', 'N', 'P', 'S', 'Z'].contains c.toUpper

/-- What stands behind a backslash. Punctuation stands for itself. -/
def escape? (cs : List Char) : Option (Escape × List Char) :=
  match cs with
  | [] => none
  | 'x' :: rest => numbered? 2 rest
  | 'u' :: rest => numbered? 4 rest
  | 'U' :: rest => numbered? 8 rest
  | 'p' :: c :: rest => if isCategory c then some (.charClass, rest) else none
  | 'P' :: c :: rest => if isCategory c then some (.charClass, rest) else none
  | c :: rest =>
    if c.isAlphanum then (letterEscape? c).map (·, rest)
    else if c.toNat < 128 && c != '<' && c != '>' then some (.character c, rest)
    else none

/-! ## Classes -/

def asciiClasses : List String :=
  ["alnum", "alpha", "ascii", "blank", "cntrl", "digit", "graph", "lower", "print", "punct",
    "space", "upper", "word", "xdigit"]

/-- What follows a class by its name, such as `[:alpha:]`. -/
def namedClass? (cs : List Char) : Option (List Char) :=
  match cs with
  | '[' :: ':' :: rest =>
    let rest := match rest with | '^' :: rest => rest | rest => rest
    match rest.dropWhile Char.isAlpha with
    | ':' :: ']' :: tail =>
      if asciiClasses.contains (String.ofList (rest.takeWhile Char.isAlpha)) then some tail
      else none
    | _ => none
  | _ => none

/-- One character of a class; `none` for a class in it. -/
def classItem? (cs : List Char) : Option (Option Char × List Char) :=
  match cs with
  | '\\' :: rest =>
    match escape? rest with
    | some (.character c, rest) => some (some c, rest)
    | some (.charClass, rest) => some (none, rest)
    | _ => none
  | c :: rest => some (some c, rest)
  | [] => none

/-- What follows the start of a class: a sign that turns it around, and characters that end a class
or make a range elsewhere. -/
def classStart (cs : List Char) : List Char :=
  let cs := match cs with | '^' :: rest => rest | rest => rest
  match cs.dropWhile (· == '-') with
  | ']' :: rest => if cs.head? == some '-' then ']' :: rest else rest
  | rest => rest

/-- What follows a class, read inside of `depth` brackets. -/
def classEnd? (fuel depth : Nat) (cs : List Char) : Option (List Char) :=
  match fuel, depth, cs with
  | _, 0, cs => some cs
  | 0, _, _ => none
  | _, _, [] => none
  | fuel + 1, depth + 1, ']' :: rest => classEnd? fuel depth rest
  | fuel + 1, depth + 1, '[' :: rest =>
    match namedClass? ('[' :: rest) with
    | some rest => classEnd? fuel (depth + 1) rest
    | none => classEnd? fuel (depth + 2) (classStart rest)
  | fuel + 1, depth + 1, '-' :: '-' :: rest => classEnd? fuel (depth + 1) rest
  | fuel + 1, depth + 1, cs =>
    match classItem? cs with
    | none => none
    | some (first, '-' :: next :: rest) =>
      if next == ']' || next == '-' then classEnd? fuel (depth + 1) ('-' :: next :: rest)
      else
        match first, classItem? (next :: rest) with
        | some a, some (some b, rest) =>
          if a ≤ b then classEnd? fuel (depth + 1) rest else none
        | _, _ => none
    | some (_, rest) => classEnd? fuel (depth + 1) rest

/-! ## Groups -/

def isNameStart (c : Char) : Bool :=
  c == '_' || (Text.isAlphanumeric c && !c.isDigit)

def isNameChar (c : Char) : Bool :=
  c == '_' || c == '.' || c == '[' || c == ']' || Text.isAlphanumeric c

/-- What follows the name of a group. -/
def afterName? (cs : List Char) : Option (List Char) :=
  if cs.head?.any isNameStart then
    match cs.dropWhile isNameChar with
    | '>' :: rest => some rest
    | _ => none
  else none

def isFlag (c : Char) : Bool :=
  ['i', 'm', 's', 'U', 'u', 'x', 'R'].contains c

/-- Flags in front of a minus sign are set, and those behind it are cleared. -/
def areFlags (cs : List Char) : Bool :=
  let letters := cs.filter (· != '-')
  letters.all isFlag && letters.eraseDups.length == letters.length &&
    cs.count '-' ≤ 1 && cs.getLast? != some '-'

/-- What follows the start of a group, and whether a group has been opened. Flags alone open
none. -/
def groupStart? (cs : List Char) : Option (Bool × List Char) :=
  match cs with
  | '?' :: 'P' :: '<' :: rest => (afterName? rest).map (true, ·)
  | '?' :: '<' :: rest => (afterName? rest).map (true, ·)
  | '?' :: rest =>
    let isFlagChar (c : Char) : Bool := isFlag c || c == '-'
    let flags := rest.takeWhile isFlagChar
    match rest.dropWhile isFlagChar with
    | ':' :: tail => if areFlags flags then some (true, tail) else none
    | ')' :: tail => if areFlags flags && !flags.isEmpty then some (false, tail) else none
    | _ => none
  | rest => some (true, rest)

/-! ## Patterns -/

/-- Goes on inside of `depth` groups. A repetition needs something in front of it. -/
def isPatternIn (fuel depth : Nat) (repeatable : Bool) (cs : List Char) : Bool :=
  match fuel, cs with
  | _, [] => depth == 0
  | 0, _ => false
  | fuel + 1, '\\' :: rest =>
    match escape? rest with
    | some (_, rest) => isPatternIn fuel depth true rest
    | none => false
  | fuel + 1, '[' :: rest =>
    match classEnd? rest.length.succ 1 (classStart rest) with
    | some rest => isPatternIn fuel depth true rest
    | none => false
  | fuel + 1, '(' :: rest =>
    match groupStart? rest with
    | some (opened, rest) => isPatternIn fuel (if opened then depth + 1 else depth) false rest
    | none => false
  | fuel + 1, ')' :: rest => depth != 0 && isPatternIn fuel (depth - 1) true rest
  | fuel + 1, '|' :: rest => isPatternIn fuel depth false rest
  | fuel + 1, c :: rest =>
    if c == '*' || c == '+' || c == '?' then repeatable && isPatternIn fuel depth true rest
    else c != '\x7b' && isPatternIn fuel depth true rest

end Pattern

def isPattern (cs : List Char) : Bool :=
  Pattern.isPatternIn cs.length 0 false cs

end GotoDefinition
