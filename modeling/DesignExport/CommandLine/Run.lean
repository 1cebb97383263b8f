import DesignExport.CommandLine.Arguments
import DesignExport.CommandLine.Configuration
import DesignExport.CommandLine.Manifest
set_option autoImplicit false

/-! Running commands on a store. The result is the text for the user. -/

namespace DesignExport

/-- Why a command fails. -/
inductive CommandError where
  | unreadable (path message : String)
  | document (fault : Json.Fault)
  | notExported (error : ExportError)
  | configuration
  | settings (fault : Json.Fault)
deriving DecidableEq

def CommandError.message : CommandError → String
  | .unreadable path message => "Failed to read " ++ path ++ ": " ++ message
  | .document fault => "Invalid document JSON: " ++ fault.message
  | .notExported error => error.message
  | .configuration => "Failed to parse TOML configuration"
  | .settings fault => "Invalid settings override: " ++ fault.message

namespace Command

variable {m : Type → Type} [Monad m]

/-- Lines, each with a newline behind it. -/
def lines (texts : List String) : String :=
  String.join (texts.map (fun text => text ++ "\n"))

def readConfiguration (store : Store m) (path : Option String) :
    ExceptT CommandError m Configuration := do
  match path with
  | none => pure {}
  | some path =>
      match ← store.read path with
      | .error message => throw (.unreadable path message)
      | .ok source =>
          match Configuration.ofText? source with
          | none => throw .configuration
          | some configuration => pure configuration

def readDocument (store : Store m) (path : String) : ExceptT CommandError m (Document Float) := do
  match ← store.read path with
  | .error message => throw (.unreadable path message)
  | .ok source =>
      match Document.ofText? source with
      | .error fault => throw (.document fault)
      | .ok document => pure document

/-- The settings for a document. -/
def settingsFor (configuration : Configuration) (document : Document Float) :
    ExceptT CommandError m Settings :=
  ExceptT.mk (pure
    ((configuration.apply (Settings.ofDocument document)).mapError CommandError.settings))

def exportTo (host : Host (StateT Manifest m) Float) (document : Document Float)
    (settings : Settings) (layer : Option String) :
    StateT Manifest m (Except ExportError Report) := do
  match layer with
  | some guid => document.exportSelected settings host guid
  | none => return .ok (← document.exportAll settings host)

/-- Exports to a folder, with an empty manifest at the start. -/
def runExport (store : Store m) (manifestPath folder : String) (document : Document Float)
    (settings : Settings) (layer : Option String) : ExceptT CommandError m Report :=
  ExceptT.mk (do
    let (result, _) ← (exportTo (store.host folder manifestPath) document settings layer).run []
    pure (result.mapError CommandError.notExported))

/-- A line for each widget: its guid, its class and its file. -/
def widgetLines (document : Document Float) (settings : Settings) : List String :=
  (Index.ofDocument document).widgets.map (fun widget =>
    let className := Naming.widgetClassName widget.toLayerInfo settings
    widget.guid ++ "\t" ++ className ++ "\t" ++ Naming.fileName className)

/-- Runs a command with a configuration. -/
def runWith (store : Store m) (configuration : Configuration) :
    Command → ExceptT CommandError m String
  | .exportFiles input folder layer => do
      let document ← readDocument store input
      let settings ← settingsFor configuration document
      let report ← runExport store configuration.manifest folder document settings layer
      pure (lines report.lines)
  | .copyLayer input layer => do
      let document ← readDocument store input
      let settings ← settingsFor configuration document
      match document.copySelected settings layer with
      | .ok snippet => pure (lines [snippet.code])
      | .error error => throw (.notExported error)
  | .listWidgets input => do
      let document ← readDocument store input
      let settings ← settingsFor configuration document
      pure (lines (widgetLines document settings))

end Command

/-- Runs the program. -/
def Arguments.run {m : Type → Type} [Monad m] (arguments : Arguments) (store : Store m) :
    m (Except CommandError String) :=
  ExceptT.run (do
    let configuration ← Command.readConfiguration store arguments.configuration
    Command.runWith store configuration arguments.command)

end DesignExport
