import DesignExport.Document.Layer
import DesignExport.Text.Blank
set_option autoImplicit false

/-! Properties stored with layers. A property is an entry of the layer's table;
what the entry holds may be of any type. -/

namespace DesignExport

variable {α : Type} [Scalar α]

inductive Property where
  /-- The class name of a widget root. -/
  | widgetName
  | exportMode
  | buildMethodName
  /-- The template of a layer in custom mode. -/
  | customCode
  | tapCallbackName
  | textParamName
  | colorParamName
  | imageParamName
  /-- The asset that an image fill shows. -/
  | imageFillName
  | includeInExportProject
  /-- Boxes below the layer merge into shapes too. -/
  | combineShapes
deriving DecidableEq

def Property.key : Property → String
  | .widgetName => "widgetName"
  | .exportMode => "exportMode"
  | .buildMethodName => "buildMethodName"
  | .customCode => "customCode"
  | .tapCallbackName => "tapCallbackName"
  | .textParamName => "textParamName"
  | .colorParamName => "colorParamName"
  | .imageParamName => "imageParamName"
  | .imageFillName => "imageFillName"
  | .includeInExportProject => "includeInExportProject"
  | .combineShapes => "combineShapes"

def Property.all : List Property :=
  [ .widgetName, .exportMode, .buildMethodName, .customCode, .tapCallbackName, .textParamName,
    .colorParamName, .imageParamName, .imageFillName, .includeInExportProject, .combineShapes ]

namespace LayerInfo

def property? (layer : LayerInfo α) (property : Property) : Option Json :=
  Table.find? property.key layer.properties

/-- A stored text without the blanks around it; an empty one counts as absent. -/
def textProperty? (layer : LayerInfo α) (property : Property) : Option String :=
  ((layer.property? property).bind Json.text?).map Text.trim |>.filter (· ≠ "")

def flagProperty? (layer : LayerInfo α) (property : Property) : Option Bool :=
  (layer.property? property).bind Json.flag?

/-- Stores a value; null removes the entry. -/
def setProperty (layer : LayerInfo α) (property : Property) (value : Json) : LayerInfo α :=
  { layer with
    properties :=
      if value.isNull then Table.erase property.key layer.properties
      else Table.insert property.key value layer.properties }

end LayerInfo

namespace Document

def fontMapKey : String := "fontMap"

def imageMapKey : String := "imageMap"

/-- Enters a name into a map among the document's properties. An entry of
another type is left alone. -/
def enterName (document : Document α) (mapKey key name : String) : Document α :=
  let map := (Table.find? mapKey document.properties).getD (.record [])
  let entered := match map with
    | .record members => Json.record (Json.insertMember key (.text name) members)
    | other => other
  { document with properties := Table.insert mapKey entered document.properties }

/-- Records the font that stands for a font of the design. -/
def setFont (document : Document α) (family font : String) : Document α :=
  document.enterName fontMapKey family font

/-- Records the asset that an image of the design is shown by. -/
def setImage (document : Document α) (image asset : String) : Document α :=
  document.enterName imageMapKey image asset

end Document

end DesignExport
