import DesignExport.Compile.Scope
import DesignExport.Diagnostic
import DesignExport.Document.Index
import DesignExport.Naming
import DesignExport.Raster
set_option autoImplicit false

/-! The state of a compile. It lives for one copy or export; the tables of the
widget in work are started anew for each widget. -/

namespace DesignExport

variable {α : Type} [Scalar α]

inductive Target where
  /-- A piece of code for other code: pictures are written in place. -/
  | clipboard
  /-- Files of widgets: pictures become constants of the file. -/
  | files
deriving DecidableEq

structure Context (α : Type) where
  index : Index α
  settings : Settings
  target : Target
  log : Log
  /-- Fonts that the generated texts use. -/
  fonts : List String
  raster : RasterQueue α
  /-- Class names by the guids of artboards and master components. -/
  widgetNames : Table String
  scope : WidgetScope

/-- A step of a compile. -/
abbrev Compile (α : Type) := StateM (Context α)

namespace Context

/-- Names the widgets in document order. A name in use is worth a warning. -/
def nameWidgets (settings : Settings) :
    List (Layer α) → Table String → List String → Table String × Log
  | [], names, _ => (names, [])
  | widget :: rest, names, taken =>
      let name := Naming.widgetClassName widget.toLayerInfo settings
      let clash :=
        if taken.contains name then
          Log.note .warning
            ("Duplicate widget name '" ++ name ++ "'; the later widget overwrites the earlier")
            (some widget.toLayerInfo) []
        else []
      let (all, log) := nameWidgets settings rest (names.insert widget.guid name) (addOnce name taken)
      (all, clash ++ log)

def start (index : Index α) (settings : Settings) (target : Target) : Context α :=
  let (names, log) := nameWidgets settings index.widgets [] []
  { index := index
    settings := settings
    target := target
    log := log
    fonts := []
    raster := RasterQueue.empty
    widgetNames := names
    scope := WidgetScope.empty "" }

/-- The class of the widget that a layer is compiled to. -/
def widgetName? (context : Context α) (guid : String) : Option String :=
  Table.find? guid context.widgetNames

end Context

namespace Compile

def note (entries : Log) : Compile α Unit :=
  modify (fun context => { context with log := context.log ++ entries })

/-- Takes a result and notes what there is to say about it. -/
def noting {β : Type} (result : β × Log) : Compile α β := do
  note result.2
  pure result.1

def warn (message : String) (layer : LayerInfo α) : Compile α Unit :=
  note (Log.note .warning message (some layer) [])

def error (message : String) (layer : LayerInfo α) : Compile α Unit :=
  note (Log.note .error message (some layer) [])

/-- A warning that is about no layer. -/
def warnAll (message : String) : Compile α Unit :=
  note (Log.note (α := α) .warning message none [])

def settings : Compile α Settings := do
  return (← get).settings

def changeScope (edit : WidgetScope → WidgetScope) : Compile α Unit :=
  modify (fun context => { context with scope := edit context.scope })

def beginWidget (name : String) : Compile α Unit :=
  modify (fun context =>
    { context with scope := WidgetScope.empty name, raster := context.raster.start name })

/-- Takes the tables of the widget. -/
def finishWidget : Compile α WidgetScope := do
  let context ← get
  set { context with scope := WidgetScope.empty "" }
  pure context.scope

def addDirective (directive : String) : Compile α Unit :=
  changeScope (fun scope => { scope with imports := addOnce directive scope.imports })

def addImport (uri : String) : Compile α Unit :=
  addDirective ("import '" ++ uri ++ "';")

def addImportAs (uri name : String) : Compile α Unit :=
  addDirective ("import '" ++ uri ++ "' as " ++ name ++ ";")

def addFont (family : String) : Compile α Unit :=
  modify (fun context => { context with fonts := addOnce family context.fonts })

/-- Of parameters with one name the first one is kept. -/
def addParam (param : Parameter) : Compile α Unit := do
  match Table.find? param.name (← get).scope.params with
  | none => changeScope (fun scope => { scope with params := scope.params ++ [(param.name, param)] })
  | some existing =>
      if existing.type ≠ param.type then
        warnAll ("Parameter '" ++ param.name ++ "' is declared as both " ++ existing.type.name ++
          " and " ++ param.type.name)
      else pure ()

/-- Of build methods with one name the last one is kept. -/
def addMethod (name body : String) : Compile α Unit := do
  if Table.contains (← get).scope.methods name then
    warnAll ("Duplicate build method '" ++ name ++ "'")
  changeScope (fun scope => { scope with methods := scope.methods.insert name body })

def addPicture (id markup : String) : Compile α Unit :=
  changeScope (fun scope => { scope with pictures := scope.pictures.insert id markup })

/-- Queues a render of a layer and returns the path of its image. -/
def addRender (layer : LayerInfo α) : Compile α String := do
  let context ← get
  let (queue, path) := context.raster.add layer
  set { context with raster := queue }
  pure path

def takeRenders : Compile α (List (RasterRequest α)) := do
  let context ← get
  let (queue, requests) := context.raster.drain
  set { context with raster := queue }
  pure requests

def inheritedOpacity (layer : LayerInfo α) : Compile α α := do
  return (← get).index.inheritedOpacity layer

end Compile

end DesignExport
