import DesignExport.Layout.Alignment
import DesignExport.Layout.Frame
import DesignExport.Layout.Pin
import DesignExport.Text.Search
import DesignExport.Diagnostic
set_option autoImplicit false

/-! The placement of a layer in its parent: how it is classified, and the
widgets that reproduce it around the code of the layer. -/

namespace DesignExport

variable {α : Type} [Scalar α]

inductive LayoutType where
  /-- Fills the parent, up to padding. -/
  | none
  /-- Moved from the origin of the parent, with a size of its own. -/
  | translate
  | center
  | align
  /-- Keeps its distances from the edges. -/
  | pinned
deriving DecidableEq

inductive LayoutError where
  | unknownLayoutType (name : String)
deriving DecidableEq

def LayoutError.message : LayoutError → String
  | .unknownLayoutType name => "Unknown layout type: " ++ name

namespace LayoutType

def name : LayoutType → String
  | .none => "none"
  | .translate => "translate"
  | .center => "center"
  | .align => "align"
  | .pinned => "pinned"

def ofName? (name : String) : Except LayoutError LayoutType :=
  match [LayoutType.none, .translate, .center, .align, .pinned].find? (fun kind => kind.name = name) with
  | some kind => .ok kind
  | .none => .error (.unknownLayoutType name)

end LayoutType

/-- The main axis of the stack that a layer is in. -/
inductive LayoutDirection where
  | vertical
  | horizontal
  | both
deriving DecidableEq

def LayoutDirection.name : LayoutDirection → String
  | .vertical => "vertical"
  | .horizontal => "horizontal"
  | .both => "both"

structure Layout (α : Type) where
  /-- A layout that is not enabled leaves code as it is. -/
  isEnabled : Bool
  type : LayoutType
  direction : LayoutDirection
  padding : Option (EdgeInsets α)
  isFixedSize : Bool
  isResponsive : Bool
  alignment : Option (Alignment α)
  /-- From the origin of the parent's content. -/
  bounds : Option (Rect α)
  parentBounds : Option (Rect α)
  /-- The size is still to be written. Code that states its own size clears this. -/
  shouldFixSize : Bool
  /-- The code does not fill its parent by itself. -/
  shouldExpand : Bool
  input : LayoutInput α

namespace Layout

def initial : Layout α where
  isEnabled := true
  type := .none
  direction := .both
  padding := none
  isFixedSize := false
  isResponsive := false
  alignment := none
  bounds := none
  parentBounds := none
  shouldFixSize := false
  shouldExpand := false
  input := LayoutInput.none

def directionOf : Option Orientation → LayoutDirection
  | some .vertical => .vertical
  | some .horizontal => .horizontal
  | none => .both

/-- A child of a stack that has the full length of the cross axis and may change
it. -/
def stretches (orientation : Orientation) (content : Rect α) (bounds : Option (Rect α))
    (constraints : Option ResizeConstraints) : Bool :=
  match bounds, constraints with
  | some bounds, some constraints =>
      match orientation with
      | .vertical =>
          !constraints.width && almostEqual bounds.x 0.0 tolerance &&
            almostEqual bounds.width content.width tolerance
      | .horizontal =>
          !constraints.height && almostEqual bounds.y 0.0 tolerance &&
            almostEqual bounds.height content.height tolerance
  | _, _ => false

/-- The distances of a box from the four edges of its parent. -/
def distances (bounds content : Rect α) : EdgeInsets α :=
  ⟨bounds.y, content.width - bounds.right, content.height - bounds.bottom, bounds.x⟩

def isFullSize (insets : EdgeInsets α) : Bool :=
  almostEqual insets.left 0.0 tolerance && almostEqual insets.top 0.0 tolerance &&
    almostEqual insets.right 0.0 tolerance && almostEqual insets.bottom 0.0 tolerance

/-- Classifies a box by the edges and dimensions it pins. -/
def classifyConstrained (layout : Layout α) (content bounds : Rect α)
    (constraints : ResizeConstraints) : Layout α :=
  if constraints.left && constraints.right && constraints.top && constraints.bottom then
    let insets := distances bounds content
    { layout with
      type := .none
      isResponsive := true
      padding := if isFullSize insets then none else some insets }
  else
    let alignment :=
      if constraints.width && constraints.height then
        Alignment.deduce? bounds content constraints
      else none
    match alignment with
    | some alignment =>
        { layout with
          type := if alignment.isCenter then .center else .align
          isResponsive := true
          isFixedSize := true
          alignment := some alignment }
    | none => { layout with type := .pinned, isResponsive := true }

/-- Classifies a layer in a parent. -/
def classify (layout : Layout α) (parent : ParentFrame α) : Layout α :=
  let input := layout.input
  match parent.stack with
  | some orientation =>
      if stretches orientation parent.content input.bounds input.constraints then
        { layout with type := .none, isResponsive := true }
      else { layout with type := .pinned, isFixedSize := true }
  | none =>
      match input.bounds, input.constraints with
      | some bounds, some constraints =>
          classifyConstrained layout parent.content bounds constraints
      | _, _ => { layout with type := .translate, isFixedSize := true }

/-- Classifies anew. Only `isEnabled` is kept; without a parent it is cleared. -/
def calculate (layout : Layout α) (input : LayoutInput α) : Layout α :=
  let fresh : Layout α := { initial with isEnabled := layout.isEnabled, input := input }
  match input.parent with
  | none => { fresh with isEnabled := false }
  | some parent =>
      let placed :=
        { fresh with
          parentBounds := some parent.content
          bounds := input.bounds
          direction := directionOf parent.stack }
      let classified := classify placed parent
      { classified with shouldFixSize := classified.isFixedSize }

def ofInput (input : LayoutInput α) : Layout α :=
  initial.calculate input

def recalculateWithBounds (layout : Layout α) (bounds : Rect α) : Layout α :=
  layout.calculate (layout.input.withBounds bounds)

/-- Keeps nothing but the bounds. With a fixed size these are still written. -/
def reset (layout : Layout α) (isFixedSize : Bool) : Layout α :=
  { initial with
    bounds := layout.bounds
    isFixedSize := isFixedSize
    shouldFixSize := isFixedSize }

/-- Rotates and flips code around its centre. -/
def transformed (layout : Layout α) (code : String) (layer : LayerInfo α) : String × Log :=
  let rotation := layout.input.rotation
  if rotation == 0.0 && !layout.input.isFlipped then (code, [])
  else if layout.isResponsive then
    (code, Log.note .warning "Rotation and flip are not supported on responsive layers"
      (some layer) [])
  else
    let angle := Scalar.fixed (rotation / 180.0 * 3.141592653589793) 4
    if layout.input.isFlipped then
      ("Transform(alignment: Alignment.center, transform: Matrix4.identity()..rotateZ(" ++ angle ++
        ")..scale(1.0, -1.0), child: " ++ code ++ ", )", [])
    else ("Transform.rotate(angle: " ++ angle ++ ", child: " ++ code ++ ", )", [])

def sizedBox (layout : Layout α) (code unit : String) : String :=
  match layout.bounds with
  | some bounds =>
      "SizedBox(width: " ++ Dart.dimension bounds.width unit ++ ", height: " ++
        Dart.dimension bounds.height unit ++ ", child: " ++ code ++ ", )"
  | none => code

/-- States the size of the code, or lets it fill its parent. Pinned code keeps
its own size. -/
def sized (layout : Layout α) (code unit : String) : String :=
  if layout.shouldFixSize then
    if layout.type = .pinned then code else layout.sizedBox code unit
  else if layout.shouldExpand && !layout.isFixedSize && layout.type = .none then
    "SizedBox.expand(child: " ++ code ++ ", )"
  else code

def padded (layout : Layout α) (code unit : String) : String :=
  match layout.padding with
  | some padding => "Padding(padding: " ++ padding.write unit ++ ", child: " ++ code ++ ", )"
  | none => code

/-- Distances below a tenth are left out. -/
def moved (layout : Layout α) (code unit : String) : String :=
  match layout.bounds with
  | none => code
  | some bounds =>
      if Scalar.abs bounds.x < 0.1 && Scalar.abs bounds.y < 0.1 then code
      else
        "Transform.translate(offset: Offset(" ++ Dart.dimension bounds.x unit ++ ", " ++
          Dart.dimension bounds.y unit ++ "), child: " ++ code ++ ", )"

/-- Code that keeps the middle of the cross axis of its stack centres its own
children there. -/
def centersCrossAxis (layout : Layout α) (code : String) (horizontal vertical : Pin α) : Bool :=
  match layout.direction with
  | .horizontal => Text.occursWithin 4 "Column(" code && vertical.middle.isSome
  | .vertical => Text.occursWithin 4 "Row(" code && horizontal.middle.isSome
  | .both => false

def joinArguments (arguments : List String) : String :=
  String.intercalate ", " arguments

def withMargins (code unit : String) (margins : List (String × α)) : String :=
  if margins.all (fun (_, margin) => margin ≤ marginBound) then code
  else
    let named := (margins.filter (fun (_, margin) => (0.0 : α) < margin)).map
      (fun (edge, margin) => edge ++ ": " ++ Dart.dimension margin unit)
    "Container(margin: EdgeInsets.only(" ++ joinArguments named ++ "), child: " ++ code ++ ", )"

/-- Margins hold the distances from the edges. Children of an artboard are
placed by the artboard. -/
def pinned (layout : Layout α) (code unit : String) : String :=
  match layout.bounds, layout.parentBounds with
  | some bounds, some content =>
      if (layout.input.parent.map (·.isArtboard)).getD false then code
      else
        let constraints := layout.input.constraints.getD {}
        let horizontal :=
          if layout.direction = .horizontal then Pin.none
          else Pin.along constraints.left constraints.width constraints.right bounds.x bounds.width
            content.width
        let vertical :=
          if layout.direction = .vertical then Pin.none
          else Pin.along constraints.top constraints.height constraints.bottom bounds.y
            bounds.height content.height
        let centered :=
          if layout.centersCrossAxis code horizontal vertical then
            Text.replaceFirst "CrossAxisAlignment.start" "CrossAxisAlignment.center" code
          else code
        withMargins centered unit
          [ ("top", vertical.start), ("right", horizontal.finish), ("bottom", vertical.finish),
            ("left", horizontal.start) ]
  | _, _ => code

/-- The widget of the classification around the code. -/
def placed (layout : Layout α) (code unit : String) (layer : LayerInfo α) : String × Log :=
  match layout.type with
  | .none => (code, [])
  | .translate => (layout.moved code unit, [])
  | .center => ("Center(child: " ++ code ++ ", )", [])
  | .align =>
      match layout.alignment with
      | some alignment =>
          ("Align(alignment: " ++ alignment.write ++ ", child: " ++ code ++ ", )", [])
      | none => (code, Log.note .error "Align layout without an alignment" (some layer) [])
  | .pinned => (layout.pinned code unit, [])

/-- Wraps code in the widgets that reproduce the placement. What was still to be
written about the size is written then. -/
def wrap (layout : Layout α) (code : String) (layer : LayerInfo α) (unit : String) :
    String × Layout α × Log :=
  if layout.isEnabled then
    let (turned, turnLog) := layout.transformed code layer
    let boxed := layout.padded (layout.sized turned unit) unit
    let (result, placeLog) := layout.placed boxed unit layer
    (result, { layout with shouldFixSize := false, shouldExpand := false }, turnLog ++ placeLog)
  else (code, layout, [])

end Layout

end DesignExport
