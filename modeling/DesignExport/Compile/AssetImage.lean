import DesignExport.Compile.Context
import DesignExport.Text.Words
set_option autoImplicit false

/-! Images that are shown from the assets of a project. -/

namespace DesignExport.AssetImage

variable {α : Type} [Scalar α]

/-- The name that the settings know for the image of a layer's fill. -/
def mappedName? (layer : LayerInfo α) (settings : Settings) : Option String :=
  match layer.activeFill? with
  | some (.image fill) => fill.fileName.bind settings.image?
  | _ => none

/-- The asset of an image fill: the mapped name, then the name stored with the
layer, then the name of the layer itself, which is worth a warning. -/
def name (layer : LayerInfo α) : Compile α String := do
  match (mappedName? layer (← Compile.settings)).or (layer.textProperty? .imageFillName) with
  | some name => pure name
  | none =>
      Compile.warn "Image fill has no asset name; using the layer name" layer
      pure (Text.snakeCase (Text.trim layer.name))

def path (name : String) : String :=
  "assets/images/" ++ name ++ ".png"

/-- The path stands in the expression as it is. -/
def write (path : String) : String :=
  "AssetImage('" ++ path ++ "')"

/-- The expression for the image of a layer's fill. -/
def ofFill (layer : LayerInfo α) : Compile α String := do
  return "const " ++ write (path (← name layer))

end DesignExport.AssetImage
