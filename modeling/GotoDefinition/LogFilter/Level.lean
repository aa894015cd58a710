import GotoDefinition.Text.Digits
import GotoDefinition.Text.Letters

/-!
# GotoDefinition.LogFilter.Level

How much is shown: nothing, or messages of a level and the more urgent ones.
-/

namespace GotoDefinition

inductive LogLevel where
  | off
  | error
  | warn
  | info
  | debug
  | trace
  deriving DecidableEq, Repr

namespace LogLevel

def all : List LogLevel :=
  [off, error, warn, info, debug, trace]

def word : LogLevel → String
  | off => "off"
  | error => "error"
  | warn => "warn"
  | info => "info"
  | debug => "debug"
  | trace => "trace"

/-- A number without a minus sign. -/
def number? (s : String) : Option Nat :=
  Text.decimal? (match s.toList with | '+' :: ds => ds | ds => ds)

/-- A level is given by its word in any case or by its number. -/
def ofText? (s : String) : Option LogLevel :=
  match (number? s).bind (all[·]?) with
  | some level => some level
  | none => all.find? (Text.alike ·.word s)

end LogLevel

end GotoDefinition
