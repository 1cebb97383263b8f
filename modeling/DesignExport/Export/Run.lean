import DesignExport.Assets.Colors
import DesignExport.Assets.TextStyles
import DesignExport.Export.Report
import DesignExport.Export.Widget
set_option autoImplicit false

/-! Exporting documents and copying layers. Files and renders go to a host. A
widget that fails is reported, and the export goes on with the next one. -/

namespace DesignExport

variable {α : Type} [Scalar α]

/-- Where files and renders go. -/
structure Host (m : Type → Type) (α : Type) where
  /-- Writes a file with a name and a text. -/
  write : String → String → m (Except ExportError Unit)
  render : List (RasterRequest α) → m (Except ExportError Unit)

/-- A step of an export. -/
abbrev Exporting (m : Type → Type) (α : Type) := StateT (Context α) m

namespace Exporting

variable {m : Type → Type} [Monad m]

def compile {β : Type} (step : Compile α β) : Exporting m α β :=
  fun context => pure (step.run context)

/-- Notes an error that does not stop the export. -/
def noteError (message : String) (layer : Option (LayerInfo α)) : Exporting m α Unit :=
  compile (Compile.note (Log.note .error message layer []))

/-- Compiles and writes a widget. The result is the name of its file. -/
def writeWidget (host : Host m α) (widget : Layer α) :
    Exporting m α (Except ExportError String) := do
  match ← compile (compileWidget widget) with
  | .error error => pure (.error error)
  | .ok file =>
      match ← host.write file.fileName file.source with
      | .error error => pure (.error error)
      | .ok _ => pure (.ok file.fileName)

def noteFailure (widget : Layer α) (error : ExportError) : Exporting m α Unit :=
  noteError ("Unable to export widget: " ++ error.message) (some widget.toLayerInfo)

/-- Hands the renders that wait to the host. -/
def renderPending (host : Host m α) : Exporting m α Unit := do
  let requests ← compile Compile.takeRenders
  if requests.isEmpty then pure ()
  else
    match ← host.render requests with
    | .ok _ => pure ()
    | .error error => noteError (α := α) error.message none

/-- Writes a file of assets, if there is one. The result is its name. -/
def writeAsset (host : Host m α) (file : Option SourceFile) : Exporting m α (List String) := do
  match file with
  | none => pure []
  | some file =>
      match ← host.write file.fileName file.source with
      | .ok _ => pure [file.fileName]
      | .error error => do
          noteError (α := α) error.message none
          pure []

/-- Writes the classes for colours and text styles. -/
def writeAssets (host : Host m α) (assets : Assets α) : Exporting m α (List String) := do
  let settings ← compile Compile.settings
  let colors ← compile (Compile.noting (ColorClass.file? assets settings))
  let styles ← compile (Compile.noting (TextStyleClass.file? assets settings))
  let colorFiles ← writeAsset host colors
  let styleFiles ← writeAsset host styles
  pure (colorFiles ++ styleFiles)

/-- Exports widgets one after the other. The result holds the files written. -/
def writeWidgets (host : Host m α) : List (Layer α) → Exporting m α (List String)
  | [] => pure []
  | widget :: rest => do
      let written ←
        match ← writeWidget host widget with
        | .ok file => pure [file]
        | .error error => do
            noteFailure widget error
            pure []
      renderPending host
      let files ← writeWidgets host rest
      pure (written ++ files)

/-- The report at the end of an export. -/
def report (message : String) (files : List String) : Exporting m α Report := do
  let context ← get
  set { context with log := [] }
  pure ⟨message, files, context.log, context.fonts⟩

end Exporting

namespace Document

variable {m : Type → Type} [Monad m]

/-- Widgets can be excluded from exports of the whole document. -/
def exportedWidgets (index : Index α) : List (Layer α) :=
  index.widgets.filter (fun widget => widget.flagProperty? .includeInExportProject ≠ some false)

/-- Exports all widgets, then the assets. -/
def exportAll (document : Document α) (settings : Settings) (host : Host m α) : m Report := do
  let index := Index.ofDocument document
  let widgets := exportedWidgets index
  let steps : Exporting m α Report := do
    let written ← Exporting.writeWidgets host widgets
    let assets ← Exporting.writeAssets host document.assets
    Exporting.report
      ("Exported " ++ toString written.length ++ " of " ++ toString widgets.length ++ " widgets")
      (written ++ assets)
  let (report, _) ← steps.run (Context.start index settings .files)
  pure report

/-- Exports one widget, then the assets. -/
def exportWidget (document : Document α) (settings : Settings) (host : Host m α)
    (widget : Layer α) : m Report := do
  let steps : Exporting m α Report := do
    let result ← Exporting.writeWidget host widget
    let (message, written) ←
      match result with
      | .ok file => pure ("Exported '" ++ file ++ "' successfully", [file])
      | .error error => do
          Exporting.noteFailure widget error
          pure ("Widget export failed", [])
    let assets ← Exporting.writeAssets host document.assets
    Exporting.renderPending host
    Exporting.report message (written ++ assets)
  let (report, _) ← steps.run (Context.start (Index.ofDocument document) settings .files)
  pure report

/-- Exports the widget that a layer is in. -/
def exportSelected (document : Document α) (settings : Settings) (host : Host m α)
    (guid : String) : m (Except ExportError Report) := do
  match document.find? guid with
  | none => pure (.error (.unknownLayer guid))
  | some layer =>
      match (Index.ofDocument document).widgetRootOf? layer with
      | none => pure (.error .outsideWidgets)
      | some widget => do
          let report ← document.exportWidget settings host widget
          pure (.ok report)

end Document

/-- Code for the clipboard. -/
structure Snippet where
  code : String
  report : Report
deriving DecidableEq

namespace Document

/-- Compiles one layer for the clipboard. -/
def copySelected (document : Document α) (settings : Settings) (guid : String) :
    Except ExportError Snippet :=
  match document.find? guid with
  | none => .error (.unknownLayer guid)
  | some layer =>
      if layer.isWidgetRoot then .error (.widgetSelected layer.name)
      else
        let (result, context) :=
          (compileSnippet layer).run (Context.start (Index.ofDocument document) settings .clipboard)
        match result with
        | .error error => .error error
        | .ok code =>
            .ok ⟨code, ⟨"Flutter code copied to clipboard", [], context.log, context.fonts⟩⟩

end Document

end DesignExport
