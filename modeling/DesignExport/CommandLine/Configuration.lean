import DesignExport.Settings
import DesignExport.Toml.Document
set_option autoImplicit false

/-! The configuration of the program, a TOML file. It names the manifest of
renders and holds settings that win over those of a document. -/

namespace DesignExport

structure Configuration where
  /-- The path of the manifest in the folder of an export. -/
  manifest : String := "render_manifest.json"
  /-- Settings by name. -/
  settings : List (String × Json) := []

namespace Configuration

/-- The manifest that a table of a file names. -/
def manifestOf? (table : List (String × Json)) : Option String :=
  match Table.find? "render_manifest" table with
  | none => some ({} : Configuration).manifest
  | some (.text manifest) => some manifest
  | some _ => none

/-- The settings that a table of a file states, in the order of their names. -/
def settingsOf? (table : List (String × Json)) : Option (List (String × Json)) :=
  match Table.find? "settings" table with
  | none => some []
  | some (.record members) => (Toml.settledMembers? members).map Json.orderMembers
  | some _ => none

/-- A text that is no TOML, or in which a known name has a value of another kind,
is no configuration. Unknown names may have any value. -/
def ofText? (source : String) : Option Configuration := do
  let table ← Toml.ofText? source
  let manifest ← manifestOf? table
  let settings ← settingsOf? table
  some { manifest, settings }

/-- The settings of a document with those of the configuration over them. -/
def apply (configuration : Configuration) (settings : Settings) : Except Json.Fault Settings :=
  settings.overlay? configuration.settings

end Configuration

end DesignExport
