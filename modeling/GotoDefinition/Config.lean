import GotoDefinition.Resolver
import GotoDefinition.Toml.Text

/-!
# GotoDefinition.Config

Settings, and reading them from TOML.

Every setting has a default and keys that are no settings are refused. A section is a table, or an
array of its settings in their order.
-/

namespace GotoDefinition

structure Config where
  toggles : Toggles
  logFilter : Option String
  deriving DecidableEq

namespace Config

def default : Config :=
  ⟨Toggles.all, none⟩

def bool? : Toml → Option Bool
  | .bool b => some b
  | _ => none

def string? : Toml → Option String
  | .string s => some s
  | _ => none

/-! ## Sections -/

def setToggle (t : Toggles) (field : String × Toml) : Option Toggles :=
  match field with
  | ("enabled", v) => (bool? v).map fun b => { t with enabled := b }
  | ("type-definition", v) => (bool? v).map fun b => { t with typeDefinition := b }
  | _ => none

def toggles? : Toml → Option Toggles
  | .table _ fields => fields.foldlM setToggle Toggles.all
  | .array items => (["enabled", "type-definition"].zip items).foldlM setToggle Toggles.all
  | _ => none

def setFilter (_ : Option String) (field : String × Toml) : Option (Option String) :=
  match field with
  | ("filter", v) => (string? v).map some
  | _ => none

def logFilter? : Toml → Option (Option String)
  | .table _ fields => fields.foldlM setFilter none
  | .array items => (["filter"].zip items).foldlM setFilter none
  | _ => none

/-! ## Reading -/

def setSection (c : Config) (field : String × Toml) : Option Config :=
  match field with
  | ("definition", v) => (toggles? v).map fun t => { c with toggles := t }
  | ("log", v) => (logFilter? v).map fun f => { c with logFilter := f }
  | _ => none

def ofToml? (fields : Toml.TableFields) : Option Config :=
  fields.foldlM setSection default

def ofText? (s : String) : Option Config :=
  (Toml.ofText? s).bind ofToml?

end Config

end GotoDefinition
