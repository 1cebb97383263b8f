import DesignExport.Compile.AssetImage
import DesignExport.Paint
import DesignExport.Tree.Node
set_option autoImplicit false

/-! Boxes: rectangles and ellipses. -/

namespace DesignExport.Box

variable {α : Type} [Scalar α]

/-- What a box is filled with. -/
inductive Filling where
  | empty
  | color (expression : String)
  | gradient (expression : String)
  | image (expression : String)
deriving DecidableEq

def Filling.write : Filling → String
  | .empty => ""
  | .color expression => "color: " ++ expression ++ ", "
  | .gradient expression => "gradient: " ++ expression ++ ", "
  | .image expression => "image: " ++ expression ++ ", "

/-- A colour can be stated without a decoration around it. -/
def Filling.isPlain : Filling → Bool
  | .empty | .color _ => true
  | _ => false

def imageFit : ImageScale → String
  | .cover => "BoxFit.cover"
  | .stretch => "BoxFit.fill"

/-- The image of a box. Unless the box is opaque, a filter fades the image. -/
def decorationImage (source : String) (scale : ImageScale) (opacity : α) : String :=
  let filter :=
    if opacity < 1.0 then
      "colorFilter: ColorFilter.mode(Colors.black.withOpacity(" ++ Scalar.fixed opacity 2 ++
        "), BlendMode.dstIn), "
    else ""
  "DecorationImage(image: " ++ source ++ ", fit: " ++ imageFit scale ++ ", " ++ filter ++ ")"

/-- A parameter stands for the colour or for the image of the fill. -/
def filling (node : NodeInfo α) (opacity : α) : Compile α Filling := do
  match node.layer.activeFill? with
  | none => pure .empty
  | some (.color own) => pure (.color (node.params.fill.getD (Dart.colorLiteral own opacity)))
  | some (.image image) => do
      let source ←
        match node.params.fill with
        | some name => pure name
        | none => AssetImage.ofFill node.layer
      pure (.image (decorationImage source image.scale opacity))
  | some fill =>
      match Paint.gradient? fill opacity with
      | some gradient => pure (.gradient gradient)
      | none =>
          match ← Compile.noting (Paint.solidColor? fill opacity node.layer) with
          | some color => pure (.color color)
          | none => pure .empty

/-- The argument for the rounding of a layer's corners. -/
def rounding (layer : LayerInfo α) (unit : String) : String :=
  match layer.kind with
  | .ellipse => "borderRadius: " ++ Paint.ellipseRadius ++ ", "
  | .rectangle radii =>
      match Paint.borderRadius? radii unit with
      | some radius => "borderRadius: " ++ radius ++ ", "
      | none => ""
  | _ => ""

def border (layer : LayerInfo α) (opacity : α) (unit : String) : Compile α String := do
  match layer.activeStroke? with
  | none => pure ""
  | some stroke =>
      return "border: " ++ (← Compile.noting (Paint.border stroke opacity layer unit)) ++ ", "

def shadow (layer : LayerInfo α) (opacity : α) : String :=
  match layer.visibleShadow? with
  | some shadow => "boxShadow: " ++ Paint.boxShadow shadow opacity ++ ", "
  | none => ""

/-- A blur of what is behind a box makes the box more transparent. -/
def opacity (layer : LayerInfo α) : Compile α α := do
  let inherited ← Compile.inheritedOpacity layer
  match layer.visibleBlur? with
  | some effect =>
      pure (if effect.isBackground then inherited * effect.fillOpacity else inherited)
  | none => pure inherited

def decoration (node : NodeInfo α) (unit : String) : Compile α String := do
  let opacity ← opacity node.layer
  let filling ← filling node opacity
  let rounding := rounding node.layer unit
  let border ← border node.layer opacity unit
  let extras := rounding ++ border ++ shadow node.layer opacity
  if extras.isEmpty && filling.isPlain then pure filling.write
  else pure ("decoration: BoxDecoration(" ++ filling.write ++ extras ++ "), ")

/-- The size of a layer as arguments. -/
def sizeArguments (layer : LayerInfo α) (unit : String) : String :=
  "width: " ++ Dart.dimension layer.localBounds.width unit ++ ", height: " ++
    Dart.dimension layer.localBounds.height unit ++ ", "

def margin (layout : Layout α) (unit : String) : String :=
  match layout.padding with
  | some padding => "margin: " ++ padding.write unit ++ ", "
  | none => ""

/-- A box states its size and its padding itself, so that nothing is left of
them for the layout. -/
def write (node : NodeInfo α) : Compile α (String × Layout α) := do
  let unit := (← Compile.settings).widthUnit
  let layout := node.layout
  let size := if layout.isEnabled && layout.shouldFixSize then sizeArguments node.layer unit else ""
  let decoration ← decoration node unit
  if layout.isEnabled then
    pure ("Container(" ++ size ++ decoration ++ margin layout unit ++ ")",
      { layout with shouldFixSize := false, padding := none })
  else pure ("Container(" ++ size ++ decoration ++ ")", layout)

end DesignExport.Box
