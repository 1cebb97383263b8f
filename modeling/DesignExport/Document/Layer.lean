import DesignExport.Document.Paint
import DesignExport.Document.TextBlock
import DesignExport.Document.Arrangement
import DesignExport.Geometry.Rect
import DesignExport.Json.Value
set_option autoImplicit false

/-! The design document: a tree of layers with geometry, paint, arrangement,
interactions and stored properties, and the assets they share. -/

namespace DesignExport

variable {α : Type} [Scalar α]

structure Transition (α : Type) where
  kind : String
  /-- In seconds. -/
  duration : α
  easing : String
  /-- The side that a sliding or pushing page comes from: `L`, `R`, `T` or `B`. -/
  fromDirection : Option String

def Transition.usual : Transition α :=
  ⟨"dissolve", 0.3, "ease-out", none⟩

inductive InteractionAction (α : Type) where
  | goToArtboard (destination : String) (transition : Transition α)
  | goBack
  | unsupported

structure Interaction (α : Type) where
  trigger : String
  action : InteractionAction α

inductive ScrollDirection where
  | vertical
  | horizontal
  | panning
deriving DecidableEq

inductive LayerKind (α : Type) where
  | artboard
  | group
  | scrollGroup (direction : ScrollDirection)
  | rectangle (radii : CornerRadii α)
  | ellipse
  | path (outline : String)
  | line (outline : String)
  | polygon (outline : String)
  | booleanGroup (outline : String)
  | text (block : TextBlock α)
  | component (isMaster : Bool) (symbol : String)
  | unknown

namespace LayerKind

def label : LayerKind α → String
  | .artboard => "Artboard"
  | .group => "Group"
  | .scrollGroup _ => "ScrollGroup"
  | .rectangle _ => "Rectangle"
  | .ellipse => "Ellipse"
  | .path _ => "Path"
  | .line _ => "Line"
  | .polygon _ => "Polygon"
  | .booleanGroup _ => "BooleanGroup"
  | .text _ => "Text"
  | .component _ _ => "Component"
  | .unknown => "Unknown"

/-- The outline of layers that are drawn along one. -/
def outline? : LayerKind α → Option String
  | .path outline | .line outline | .polygon outline | .booleanGroup outline => some outline
  | _ => none

def isOutlined (kind : LayerKind α) : Bool :=
  kind.outline?.isSome

end LayerKind

/-- A layer without its children. -/
structure LayerInfo (α : Type) where
  guid : String
  name : String
  /-- The name was made up by the design tool. -/
  hasDefaultName : Bool
  kind : LayerKind α
  isVisible : Bool
  /-- Into the space of the parent. -/
  transform : Affine α
  /-- In the space of the layer. -/
  localBounds : Rect α
  /-- In degrees. -/
  rotation : α
  isFlipped : Bool
  opacity : α
  fill : Option (Fill α)
  isFillEnabled : Bool
  stroke : Option (Stroke α)
  shadow : Option (Shadow α)
  blur : Option (Blur α)
  arrangement : Arrangement α
  /-- The first child masks the others. -/
  isMasked : Bool
  interactions : List (Interaction α)
  /-- The layer is to be exported as an image. -/
  isMarkedForExport : Bool
  properties : Table Json

structure Layer (α : Type) extends LayerInfo α where
  children : List (Layer α)

namespace LayerInfo

/-- A layer with the geometry and the paint of an empty record. -/
def usual (guid name : String) (kind : LayerKind α) : LayerInfo α where
  guid := guid
  name := name
  hasDefaultName := false
  kind := kind
  isVisible := true
  transform := Affine.identity
  localBounds := Rect.zero
  rotation := 0.0
  isFlipped := false
  opacity := 1.0
  fill := none
  isFillEnabled := true
  stroke := none
  shadow := none
  blur := none
  arrangement := Arrangement.plain
  isMasked := false
  interactions := []
  isMarkedForExport := false
  properties := []

/-- Bounds in the space of the parent. -/
def boundsInParent (layer : LayerInfo α) : Rect α :=
  layer.localBounds.transformed layer.transform

/-- Artboards and master components become widgets of their own. -/
def isWidgetRoot (layer : LayerInfo α) : Bool :=
  match layer.kind with
  | .artboard => true
  | .component isMaster _ => isMaster
  | _ => false

def activeFill? (layer : LayerInfo α) : Option (Fill α) :=
  if layer.isFillEnabled then layer.fill else none

def activeStroke? (layer : LayerInfo α) : Option (Stroke α) :=
  layer.stroke.filter Stroke.isActive

def visibleShadow? (layer : LayerInfo α) : Option (Shadow α) :=
  layer.shadow.filter (·.isVisible)

def visibleBlur? (layer : LayerInfo α) : Option (Blur α) :=
  layer.blur.filter (·.isVisible)

def hasImageFill (layer : LayerInfo α) : Bool :=
  match layer.activeFill? with
  | some (.image _) => true
  | _ => false

end LayerInfo

namespace Layer

def usual (guid name : String) (kind : LayerKind α) : Layer α :=
  ⟨LayerInfo.usual guid name kind, []⟩

mutual

/-- The first layer with a guid, parents before their children. -/
def find? (guid : String) : Layer α → Option (Layer α)
  | ⟨info, children⟩ =>
      if info.guid = guid then some ⟨info, children⟩ else findAmong? guid children

def findAmong? (guid : String) : List (Layer α) → Option (Layer α)
  | [] => none
  | layer :: rest =>
      match find? guid layer with
      | some found => some found
      | none => findAmong? guid rest

end

mutual

/-- Changes the first layer with a guid. `none`: no layer has it. -/
def change? (guid : String) (edit : LayerInfo α → LayerInfo α) : Layer α → Option (Layer α)
  | ⟨info, children⟩ =>
      if info.guid = guid then some ⟨edit info, children⟩
      else (changeAmong? guid edit children).map (fun changed => ⟨info, changed⟩)

def changeAmong? (guid : String) (edit : LayerInfo α → LayerInfo α) :
    List (Layer α) → Option (List (Layer α))
  | [] => none
  | layer :: rest =>
      match change? guid edit layer with
      | some changed => some (changed :: rest)
      | none => (changeAmong? guid edit rest).map (layer :: ·)

end

mutual

/-- The layer and all layers below it, parents before their children. -/
def flatten : Layer α → List (Layer α)
  | ⟨info, children⟩ => ⟨info, children⟩ :: flattenAll children

def flattenAll : List (Layer α) → List (Layer α)
  | [] => []
  | layer :: rest => flatten layer ++ flattenAll rest

end

end Layer

/-- A named colour or gradient. -/
structure ColorAsset (α : Type) where
  name : Option String
  color : Option Color
  gradient : Option (Fill α)

structure TextStyleAsset (α : Type) where
  name : Option String
  style : TextRun α

structure Assets (α : Type) where
  colors : List (ColorAsset α)
  textStyles : List (TextStyleAsset α)

structure Document (α : Type) where
  /-- Settings and name maps for the whole document. -/
  properties : Table Json
  /-- The layers at the top, usually artboards. -/
  children : List (Layer α)
  assets : Assets α

namespace Document

def empty : Document α :=
  ⟨[], [], ⟨[], []⟩⟩

def find? (document : Document α) (guid : String) : Option (Layer α) :=
  Layer.findAmong? guid document.children

/-- Changes the first layer with a guid; without one the document stays as it is. -/
def change (document : Document α) (guid : String) (edit : LayerInfo α → LayerInfo α) :
    Document α :=
  match Layer.changeAmong? guid edit document.children with
  | some children => { document with children := children }
  | none => document

end Document

end DesignExport
