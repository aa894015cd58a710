import GotoDefinition.Json.Basic

/-!
# GotoDefinition.Json.Print

Writing JSON values, on one line or with an indent of two spaces for every level.

What is not a whole value (a string that denotes no text, a number that is not natural, the end of
a text that was not JSON) is written as `null`.
-/

namespace GotoDefinition

namespace Json

/-! ## Strings -/

def hexDigit (n : Nat) : Char :=
  if n < 10 then Char.ofNat (48 + n) else Char.ofNat (87 + n)

/-- Quotes, backslashes and control characters are escaped, and nothing else. -/
def escapeChar (c : Char) : List Char :=
  match c with
  | '"' => ['\\', '"']
  | '\\' => ['\\', '\\']
  | '\x08' => ['\\', 'b']
  | '\x0c' => ['\\', 'f']
  | '\n' => ['\\', 'n']
  | '\r' => ['\\', 'r']
  | '\t' => ['\\', 't']
  | c =>
    if c.toNat < 0x20 then
      ['\\', 'u', '0', '0', hexDigit (c.toNat / 16), hexDigit (c.toNat % 16)]
    else [c]

def quote (s : String) : String :=
  String.ofList ('"' :: s.toList.flatMap escapeChar ++ ['"'])

def printText : Option String → String
  | some s => quote s
  | none => "null"

/-! ## One line -/

mutual

def compact : Json → String
  | .bool true => "true"
  | .bool false => "false"
  | .natural n => toString n
  | .string s => printText s
  | .array items => "[" ++ ",".intercalate (compactItems items) ++ "]"
  | .object fields => "\x7b" ++ ",".intercalate (compactFields fields) ++ "\x7d"
  | .null => "null"
  | .real _ => "null"
  | .malformed => "null"

def compactItems : List Json → List String
  | [] => []
  | v :: vs => v.compact :: compactItems vs

def compactFields : List (Option String × Json) → List String
  | [] => []
  | (k, v) :: fields => (printText k ++ ":" ++ v.compact) :: compactFields fields

end

/-! ## Several lines -/

def indent (level : Nat) : String :=
  "\n" ++ String.ofList (List.replicate (2 * level) ' ')

mutual

def prettyAt (level : Nat) : Json → String
  | .array [] => "[]"
  | .array items =>
    "[" ++ ",".intercalate (prettyItems (level + 1) items) ++ indent level ++ "]"
  | .object [] => "\x7b\x7d"
  | .object fields =>
    "\x7b" ++ ",".intercalate (prettyFields (level + 1) fields) ++ indent level ++ "\x7d"
  | .bool true => "true"
  | .bool false => "false"
  | .natural n => toString n
  | .string s => printText s
  | .null => "null"
  | .real _ => "null"
  | .malformed => "null"

def prettyItems (level : Nat) : List Json → List String
  | [] => []
  | v :: vs => (indent level ++ v.prettyAt level) :: prettyItems level vs

def prettyFields (level : Nat) : List (Option String × Json) → List String
  | [] => []
  | (k, v) :: fields =>
    (indent level ++ printText k ++ ": " ++ v.prettyAt level) :: prettyFields level fields

end

def pretty (v : Json) : String :=
  v.prettyAt 0

end Json

end GotoDefinition
