import DesignExport.Color
import DesignExport.Geometry.Affine
set_option autoImplicit false

/-! What a layer is painted with: fills, strokes, shadows and blurs. -/

namespace DesignExport

variable {α : Type} [Scalar α]

structure ColorStop (α : Type) where
  position : α
  color : Color

structure LinearGradient (α : Type) where
  startX : α
  startY : α
  endX : α
  endY : α
  stops : List (ColorStop α)

structure RadialGradient (α : Type) where
  startX : α
  startY : α
  startRadius : α
  endX : α
  endY : α
  endRadius : α
  transform : Affine α
  stops : List (ColorStop α)

inductive ImageScale where
  | cover
  | stretch
deriving DecidableEq

structure ImageFill (α : Type) where
  fileName : Option String
  scale : ImageScale
  naturalWidth : α
  naturalHeight : α

inductive Fill (α : Type) where
  | color (color : Color)
  | linear (gradient : LinearGradient α)
  | radial (gradient : RadialGradient α)
  | angular (stops : List (ColorStop α))
  | image (image : ImageFill α)

namespace Fill

def stops : Fill α → List (ColorStop α)
  | .linear gradient => gradient.stops
  | .radial gradient => gradient.stops
  | .angular stops => stops
  | _ => []

/-- The colour that stands for the fill: its own or that of its first stop. -/
def firstColor? : Fill α → Option Color
  | .color own => some own
  | other => other.stops.head?.map (·.color)

def label : Fill α → String
  | .color _ => "color"
  | .linear _ => "linear gradient"
  | .radial _ => "radial gradient"
  | .angular _ => "angular gradient"
  | .image _ => "image fill"

end Fill

structure CornerRadii (α : Type) where
  topLeft : α
  topRight : α
  bottomRight : α
  bottomLeft : α

namespace CornerRadii

def none : CornerRadii α :=
  ⟨0.0, 0.0, 0.0, 0.0⟩

def isUniform (radii : CornerRadii α) : Bool :=
  radii.topLeft == radii.topRight && radii.topLeft == radii.bottomRight &&
    radii.topLeft == radii.bottomLeft

def isZero (radii : CornerRadii α) : Bool :=
  radii.isUniform && radii.topLeft == 0.0

end CornerRadii

inductive StrokePosition where
  | center
  | inside
  | outside
deriving DecidableEq

inductive StrokeJoin where
  | miter
  | round
  | bevel
deriving DecidableEq

def StrokeJoin.name : StrokeJoin → String
  | .miter => "miter"
  | .round => "round"
  | .bevel => "bevel"

inductive StrokeCap where
  | butt
  | round
  | square
deriving DecidableEq

def StrokeCap.name : StrokeCap → String
  | .butt => "butt"
  | .round => "round"
  | .square => "square"

structure Stroke (α : Type) where
  color : Color
  width : α
  isEnabled : Bool
  position : StrokePosition
  join : StrokeJoin
  cap : StrokeCap
  dashes : List α
  dashOffset : α
  miterLimit : α

namespace Stroke

/-- The miter limit of strokes that set none. -/
def usualMiterLimit : α := 4.0

def isDashed (stroke : Stroke α) : Bool :=
  stroke.dashes.any (fun dash => (0.0 : α) < dash)

/-- Enabled and of some width. -/
def isActive (stroke : Stroke α) : Bool :=
  stroke.isEnabled && (0.0 : α) < stroke.width

end Stroke

structure Shadow (α : Type) where
  x : α
  y : α
  blur : α
  color : Color
  isVisible : Bool

structure Blur (α : Type) where
  amount : α
  brightness : α
  fillOpacity : α
  isVisible : Bool
  /-- Blurs what is behind the layer, not the layer. -/
  isBackground : Bool

end DesignExport
