import GotoDefinition.LogFilter.Field
import GotoDefinition.LogFilter.Level
import GotoDefinition.Text.Blank

/-!
# GotoDefinition.LogFilter.Directive

A directive gives a level to messages: to all of them, to those of a target, or to those in a span,
as in `target[span\x7bfield=value\x7d]=level`.

The parts of a directive are found in its text without the blanks at both ends, but they are taken
out of the text with these blanks, at the same places counted in bytes.
-/

namespace GotoDefinition

structure LogDirective where
  target : Option String
  span : Option String
  fields : List FieldMatch
  level : LogLevel
  deriving DecidableEq, Repr

namespace LogDirective

/-! ## Pieces of a text -/

def byteSize (cs : List Char) : Nat :=
  (String.ofList cs).utf8ByteSize

/-- The characters in the first bytes of a text, and what follows them; `none` where this splits a
character. -/
def splitBytes? : Nat → List Char → Option (List Char × List Char)
  | 0, cs => some ([], cs)
  | _, [] => none
  | n, c :: cs =>
    if n < c.utf8Size then none
    else (splitBytes? (n - c.utf8Size) cs).map fun (front, rest) => (c :: front, rest)
termination_by _ cs => cs.length

/-- What stands between two places. -/
def piece? (text : List Char) (start stop : Nat) : Option (List Char) :=
  match splitBytes? start text with
  | some (_, rest) => (splitBytes? (stop - start) rest).map (·.1)
  | none => none

/-! ## Reading -/

def isTargetStart (c : Char) : Bool :=
  c == '-' || c == ':' || c == '_' || Text.isAlphanumeric c

/-- What stands behind `=`; nothing stands for the level that shows everything. -/
def level? (text : List Char) (start : Nat) : Option LogLevel :=
  match piece? text start (byteSize text) with
  | some [] => some .trace
  | some level => LogLevel.ofText? (String.ofList level)
  | none => none

/-- The end of a directive behind a span, at a place. -/
def afterSpan? (text : List Char) (target span : Option String) (fields : List FieldMatch)
    (place : Nat) (cs : List Char) : Option LogDirective :=
  match cs with
  | [] => some ⟨target, span, fields, .trace⟩
  | '=' :: _ => (level? text (place + 1)).map fun level => ⟨target, span, fields, level⟩
  | _ => none

/-- A field in braces. -/
def field? (text : List Char) (target span : Option String) (place : Nat) (cs : List Char) :
    Option LogDirective :=
  let name := cs.takeWhile (· != '\x7d')
  let stop := place + byteSize name
  match cs.drop name.length, piece? text place stop with
  | '\x7d' :: ']' :: rest, some (c :: field) =>
    (FieldMatch.ofChars? (c :: field)).bind fun f =>
      afterSpan? text target span [f] (stop + 2) rest
  | _, _ => none

/-- A span in brackets. -/
def span? (text : List Char) (target : Option String) (place : Nat) (cs : List Char) :
    Option LogDirective :=
  let name := cs.takeWhile fun c => c != ']' && c != '\x7b'
  let stop := place + byteSize name
  match cs.drop name.length, piece? text place stop with
  | ']' :: rest, some name =>
    afterSpan? text target (some (String.ofList name)) [] (stop + 1) rest
  | '\x7b' :: rest, some name =>
    field? text target (if name.isEmpty then none else some (String.ofList name)) (stop + 1) rest
  | _, _ => none

/-- A level alone, or a target that shows everything. -/
def bare (text : List Char) : LogDirective :=
  match LogLevel.ofText? (String.ofList text) with
  | some level => ⟨none, none, [], level⟩
  | none => ⟨some (String.ofList text), none, [], .trace⟩

/-- A directive that starts with a target. -/
def targeted? (text inner : List Char) : Option LogDirective :=
  let name := inner.takeWhile fun c => c != '=' && c != '['
  let stop := byteSize name
  match inner.drop name.length, piece? text 0 stop with
  | '=' :: _, some target =>
    (level? text (stop + 1)).map fun level => ⟨some (String.ofList target), none, [], level⟩
  | '[' :: rest, some target => span? text (some (String.ofList target)) (stop + 1) rest
  | [], _ => some (bare text)
  | _, _ => none

def ofChars? (text : List Char) : Option LogDirective :=
  match Text.trim text with
  | [] => none
  | '[' :: rest => span? text none 1 rest
  | c :: rest => if isTargetStart c then targeted? text (c :: rest) else none

/-! ## Writing -/

def text (d : LogDirective) : String :=
  let fields :=
    if d.fields.isEmpty then ""
    else "\x7b" ++ ",".intercalate (d.fields.map FieldMatch.text) ++ "\x7d"
  let span :=
    if d.span.isNone && d.fields.isEmpty then "" else "[" ++ d.span.getD "" ++ fields ++ "]"
  let place := d.target.getD "" ++ span
  (if d.target.isNone && span.isEmpty then "" else place ++ "=") ++ d.level.word

/-! ## Order -/

def compareTexts (s t : Option String) : Ordering :=
  match s, t with
  | some s, some t => Ord.compare s t
  | some _, none => .gt
  | none, some _ => .lt
  | none, none => .eq

def compareFields : List FieldMatch → List FieldMatch → Ordering
  | [], [] => .eq
  | [], _ :: _ => .lt
  | _ :: _, [] => .gt
  | f :: fs, g :: gs => (f.compare g).then (compareFields fs gs)

/-- The size of a target; a directive without one has the least. -/
def targetSize (d : LogDirective) : Nat :=
  match d.target with
  | some target => target.utf8ByteSize + 1
  | none => 0

/-- How particular a directive is: by the size of its target, then by its span and the number of
its fields; then by the texts. -/
def compare (d e : LogDirective) : Ordering :=
  (((((Ord.compare d.targetSize e.targetSize).then
    (Ord.compare d.span.isSome e.span.isSome)).then
    (Ord.compare d.fields.length e.fields.length)).then
    (compareTexts d.target e.target)).then
    (compareTexts d.span e.span)).then
    (compareFields d.fields e.fields)

/-- Whether a directive asks for a span. -/
def isDynamic (d : LogDirective) : Bool :=
  d.span.isSome || !d.fields.isEmpty

/-- Whether messages alone decide what a directive gives its level to. -/
def isStatic (d : LogDirective) : Bool :=
  d.span.isNone && d.fields.all (·.value.isNone)

end LogDirective

end GotoDefinition
