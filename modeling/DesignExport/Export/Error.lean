set_option autoImplicit false

/-! Why a copy, an export or the export of one widget fails. -/

namespace DesignExport

inductive ExportError where
  | unknownLayer (guid : String)
  /-- The layer is not inside any widget. -/
  | outsideWidgets
  /-- Widgets are exported, not copied. -/
  | widgetSelected (name : String)
  | nothingToExport (name : String)
  | notWritten (file message : String)
  | notRendered (message : String)
  /-- The storage refused to make a folder. -/
  | storage (message : String)
deriving DecidableEq

def ExportError.message : ExportError → String
  | .unknownLayer guid => "No node with guid '" ++ guid ++ "' in document"
  | .outsideWidgets =>
      "Only layers inside an artboard or master component can be exported"
  | .widgetSelected name => "'" ++ name ++ "' is a widget; export it instead of copying"
  | .nothingToExport name => "Nothing to export for '" ++ name ++ "'"
  | .notWritten file message => "Failed to write " ++ file ++ ": " ++ message
  | .notRendered message => "Raster export failed: " ++ message
  | .storage message => "IO error: " ++ message

end DesignExport
