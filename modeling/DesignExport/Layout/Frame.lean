import DesignExport.Layout.Insets
import DesignExport.Document.Layer
set_option autoImplicit false

/-! What placing a layer needs to know about its parent. -/

namespace DesignExport

variable {α : Type} [Scalar α]

structure ParentFrame (α : Type) where
  /-- The area for children in the space of the parent, without padding. -/
  content : Rect α
  /-- The direction in which the parent stacks its children. -/
  stack : Option Orientation
  isArtboard : Bool

/-- A rectangle without insets; no side gets shorter than nothing. -/
def Rect.insetBy (rect : Rect α) (insets : EdgeInsets α) : Rect α :=
  ⟨rect.x + insets.left, rect.y + insets.top,
    Scalar.atLeast 0.0 (rect.width - insets.left - insets.right),
    Scalar.atLeast 0.0 (rect.height - insets.top - insets.bottom)⟩

namespace ParentFrame

def ofLayer (parent : LayerInfo α) : ParentFrame α :=
  let area :=
    if parent.isWidgetRoot then ⟨0.0, 0.0, parent.localBounds.width, parent.localBounds.height⟩
    else parent.localBounds
  { content :=
      match parent.arrangement.insets? with
      | some insets => area.insetBy insets
      | none => area
    stack := parent.arrangement.activeStack?.map (·.orientation)
    isArtboard := match parent.kind with
      | .artboard => true
      | _ => false }

end ParentFrame

/-- What the placement of a layer is computed from. -/
structure LayoutInput (α : Type) where
  /-- Absent for widget roots. -/
  parent : Option (ParentFrame α)
  /-- From the origin of the parent's content. -/
  bounds : Option (Rect α)
  constraints : Option ResizeConstraints
  /-- In degrees. -/
  rotation : α
  isFlipped : Bool

/-- Bounds from the origin of the parent's content. A rotated layer keeps its
own size, centred where its rotated bounds are, since it is rotated again when
it is drawn. -/
def ParentFrame.place (frame : ParentFrame α) (layer : LayerInfo α) : Rect α :=
  let bounds := layer.boundsInParent
  let upright :=
    if layer.rotation == 0.0 then bounds
    else
      let center := bounds.center
      let width := layer.localBounds.width
      let height := layer.localBounds.height
      ⟨center.x - width / 2.0, center.y - height / 2.0, width, height⟩
  upright.translate (-frame.content.x) (-frame.content.y)

namespace LayoutInput

def none : LayoutInput α :=
  ⟨.none, .none, .none, 0.0, false⟩

def ofLayer (layer : LayerInfo α) (parent : Option (LayerInfo α)) : LayoutInput α :=
  let frame := parent.map ParentFrame.ofLayer
  { parent := frame
    bounds := some (match frame with
      | some frame => frame.place layer
      | .none => ⟨0.0, 0.0, layer.localBounds.width, layer.localBounds.height⟩)
    constraints := layer.arrangement.constraints
    rotation := layer.rotation
    isFlipped := layer.isFlipped }

/-- The same parent and constraints with other bounds, neither rotated nor flipped. -/
def withBounds (input : LayoutInput α) (bounds : Rect α) : LayoutInput α :=
  { input with bounds := some bounds, rotation := 0.0, isFlipped := false }

end LayoutInput

end DesignExport
