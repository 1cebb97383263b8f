import DesignExport.Document.Layer
import DesignExport.Text.Blank
import DesignExport.Text.Letter
set_option autoImplicit false

/-! Requests to render layers as images. The images of a widget go to a folder of
their own, under names that are taken from the layers. -/

namespace DesignExport

variable {α : Type} [Scalar α]

structure RasterRequest (α : Type) where
  guid : String
  /-- The path of the image in the project. -/
  path : String
  scale : α

structure RasterQueue (α : Type) where
  folder : String
  /-- Names used in the folder so far. -/
  names : List String
  pending : List (RasterRequest α)

namespace RasterQueue

def empty : RasterQueue α :=
  ⟨"", [], []⟩

/-- Starts the folder of a widget. -/
def start (queue : RasterQueue α) (widget : String) : RasterQueue α :=
  { queue with
    folder := "assets/images/" ++ String.ofList (Text.withoutBlanks (Text.lower widget.toList))
    names := [] }

/-- Letters and digits in lower case, and an underscore for everything else. -/
def imageName (layerName : String) : String :=
  let name := (Text.trim layerName).toList.map
    (fun char => if char.isAlphanum then char.toLower else '_')
  if name.isEmpty then "image" else String.ofList name

/-- Images are three times as large as the layer, and small layers are enlarged
further, up to a limit for each side. -/
def scaleOf (bounds : Rect α) : α :=
  if (0.0 : α) < bounds.width && (0.0 : α) < bounds.height then
    Scalar.least (Scalar.least 20.0 (200.0 / bounds.height)) (400.0 / bounds.width) * 3.0
  else 3.0

/-- A name that is in use gets the guid of the layer behind it. -/
def add (queue : RasterQueue α) (layer : LayerInfo α) : RasterQueue α × String :=
  let wanted := imageName layer.name
  let name := if queue.names.contains wanted then wanted ++ "_" ++ layer.guid else wanted
  let path := queue.folder ++ "/" ++ name ++ ".png"
  ({ queue with
      names := addOnce name queue.names
      pending := queue.pending ++ [⟨layer.guid, path, scaleOf layer.localBounds⟩] }, path)

/-- Takes the requests that wait, in the order in which they were made. -/
def drain (queue : RasterQueue α) : RasterQueue α × List (RasterRequest α) :=
  ({ queue with pending := [] }, queue.pending)

end RasterQueue

end DesignExport
