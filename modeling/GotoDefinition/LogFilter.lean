import GotoDefinition.LogFilter.Directive

/-!
# GotoDefinition.LogFilter

Which log messages are shown.

A filter is directives between commas. It is shown with the directives first that messages alone
decide, then those that ask for spans; among them the most particular comes first. A later directive
replaces an earlier one that asks for the same.
-/

namespace GotoDefinition

/-- Directives in the order in which they are shown. -/
structure LogFilter where
  statics : List LogDirective
  dynamics : List LogDirective
  deriving DecidableEq

namespace LogFilter

def insertDirective (d : LogDirective) : List LogDirective → List LogDirective
  | [] => [d]
  | e :: es =>
    match d.compare e with
    | .eq => d :: es
    | .gt => d :: e :: es
    | .lt => e :: insertDirective d es

def insertAll (ds : List LogDirective) : List LogDirective :=
  ds.foldl (fun es d => insertDirective d es) []

/-- A directive that asks for fields without values counts on both sides. -/
def ofDirectives (ds : List LogDirective) : LogFilter :=
  let (dynamics, plain) := ds.partition (·.isDynamic)
  ⟨insertAll ((plain ++ dynamics).filter (·.isStatic)), insertAll dynamics⟩

def ofText? (s : String) : Option LogFilter :=
  let parts := (Text.segments ',' s.toList).filter (!·.isEmpty)
  (parts.mapM LogDirective.ofChars?).map ofDirectives

/-- Warnings and errors. -/
def default : LogFilter :=
  ⟨[⟨none, none, [], .warn⟩], []⟩

/-- The filter of the settings; one that cannot be read counts for nothing. -/
def ofSetting (setting : Option String) : LogFilter :=
  match setting with
  | none => default
  | some text => (ofText? text).getD default

def text (f : LogFilter) : String :=
  ",".intercalate ((f.statics ++ f.dynamics).map LogDirective.text)

end LogFilter

end GotoDefinition
