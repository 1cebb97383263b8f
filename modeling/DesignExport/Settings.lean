import DesignExport.Document.Decoding
import DesignExport.Document.Property
set_option autoImplicit false

/-! Settings of an export. They are stored among the properties of a document;
if any of them has the wrong shape, all of them take their defaults. -/

namespace DesignExport

structure Settings where
  /-- Put in front of the class names of widgets. -/
  widgetPrefix : String := ""
  /-- Layers with a link to an artboard open it. -/
  enablePrototype : Bool := true
  /-- Names from layers are brought into the usual case. -/
  normalizeNameCase : Bool := true
  /-- Layers with a name of their own are named in comments. -/
  includeNameComments : Bool := true
  nullSafe : Bool := true
  exportColors : Bool := true
  exportTextStyles : Bool := true
  colorsClassName : String := "GenColors"
  textStylesClassName : String := "GenTextStyles"
  /-- Put behind measures. -/
  widthUnit : String := ""
  /-- Rectangles and ellipses merge into shapes too. -/
  combineShapes : Bool := false
  /-- From fonts of the design to fonts of the generated code. -/
  fontMap : Table String := []
  /-- From images of the design to assets. -/
  imageMap : Table String := []
deriving DecidableEq

namespace Settings

open DesignExport.Json (Decoder recordOf)
open DesignExport.Json.Decoder (field)

def decoder : Decoder Settings :=
  Decoder.record
    [ field "widgetPrefix" Decoder.text (fun settings widgetPrefix => { settings with widgetPrefix }),
      field "enablePrototype" Decoder.flag
        (fun settings enablePrototype => { settings with enablePrototype }),
      field "normalizeNameCase" Decoder.flag
        (fun settings normalizeNameCase => { settings with normalizeNameCase }),
      field "includeNameComments" Decoder.flag
        (fun settings includeNameComments => { settings with includeNameComments }),
      field "nullSafe" Decoder.flag (fun settings nullSafe => { settings with nullSafe }),
      field "exportColors" Decoder.flag (fun settings exportColors => { settings with exportColors }),
      field "exportCharStyles" Decoder.flag
        (fun settings exportTextStyles => { settings with exportTextStyles }),
      field "colorsClassName" Decoder.text
        (fun settings colorsClassName => { settings with colorsClassName }),
      field "charStylesClassName" Decoder.text
        (fun settings textStylesClassName => { settings with textStylesClassName }),
      field "widthUnit" Decoder.text (fun settings widthUnit => { settings with widthUnit }),
      field "combineShapes" Decoder.flag
        (fun settings combineShapes => { settings with combineShapes }),
      field "fontMap" (Decoder.table Decoder.text) (fun settings fontMap => { settings with fontMap }),
      field "imageMap" (Decoder.table Decoder.text)
        (fun settings imageMap => { settings with imageMap }) ]
    {}

def names (table : Table String) : Json :=
  recordOf (table.map (fun (key, name) => (key, Json.text name)))

def toJson (settings : Settings) : Json :=
  recordOf
    [ ("widgetPrefix", .text settings.widgetPrefix),
      ("enablePrototype", .flag settings.enablePrototype),
      ("normalizeNameCase", .flag settings.normalizeNameCase),
      ("includeNameComments", .flag settings.includeNameComments),
      ("nullSafe", .flag settings.nullSafe), ("exportColors", .flag settings.exportColors),
      ("exportCharStyles", .flag settings.exportTextStyles),
      ("colorsClassName", .text settings.colorsClassName),
      ("charStylesClassName", .text settings.textStylesClassName),
      ("widthUnit", .text settings.widthUnit), ("combineShapes", .flag settings.combineShapes),
      ("fontMap", names settings.fontMap), ("imageMap", names settings.imageMap) ]

def ofJson? (value : Json) : Except Json.Fault Settings :=
  Json.decodeValue decoder value

/-- The settings stored with a document. -/
def ofDocument {α : Type} (document : Document α) : Settings :=
  match ofJson? (recordOf document.properties) with
  | .ok settings => settings
  | .error _ => {}

/-- Members of a table win over settings of the same name. -/
def overlay? (settings : Settings) (overrides : List (String × Json)) :
    Except Json.Fault Settings :=
  if overrides.isEmpty then .ok settings
  else
    match settings.toJson with
    | .record members =>
        ofJson? (.record (overrides.foldl
          (fun merged (key, value) => Json.insertMember key value merged) members))
    | other => ofJson? other

def font (settings : Settings) (family : String) : String :=
  (Table.find? family settings.fontMap).getD family

def image? (settings : Settings) (key : String) : Option String :=
  Table.find? key settings.imageMap

end Settings

end DesignExport
