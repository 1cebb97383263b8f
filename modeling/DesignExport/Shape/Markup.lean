import DesignExport.Diagnostic
import DesignExport.Shape.Unit
set_option autoImplicit false

/-! The SVG markup of shape units. -/

namespace DesignExport.Markup

variable {α : Type} [Scalar α]

/-- The opacity that a layer is drawn with. -/
abbrev OpacityOf (α : Type) := LayerInfo α → α

def attr (name value : String) : String :=
  name ++ "=\"" ++ value ++ "\""

/-- Numbers with some places and a space between them. -/
def numbers (places : Nat) (values : List α) : String :=
  String.intercalate " " (values.map (fun value => Scalar.fixed value places))

/-- The colour for a fill or a stroke, and its opacity unless that is one. -/
def paint (name : String) (color : Color) (opacity : α) : String :=
  let alpha := color.opacity * opacity
  attr name color.toHex ++
    (if alpha == 1.0 then "" else " " ++ attr (name ++ "-opacity") (Scalar.fixed alpha 2))

/-- A move alone is written as such; the identity has no notation. -/
def transform? (map : Affine α) : Option String :=
  if !map.isShift then
    some ("matrix(" ++ String.intercalate ", "
      [ Scalar.fixed map.a 6, Scalar.fixed map.b 6, Scalar.fixed map.c 6, Scalar.fixed map.d 6,
        Scalar.fixed map.e 2, Scalar.fixed map.f 2 ] ++ ")")
  else if !(map.e == 0.0) || !(map.f == 0.0) then
    some ("translate(" ++ Scalar.fixed map.e 2 ++ ", " ++ Scalar.fixed map.f 2 ++ ")")
  else none

def stop (stop : ColorStop α) : String :=
  let opacity :=
    if stop.color.alpha = 255 then ""
    else " " ++ attr "stop-opacity" (Scalar.fixed (stop.color.opacity : α) 2)
  "<stop " ++ attr "offset" (Scalar.fixed stop.position 6) ++ " " ++
    attr "stop-color" stop.color.toHex ++ opacity ++ " />"

def stops (stops : List (ColorStop α)) : String :=
  String.join (stops.map stop)

def linearGradient (gradient : LinearGradient α) : String :=
  "<linearGradient id=\"gradient\" " ++ attr "x1" (Scalar.fixed gradient.startX 6) ++ " " ++
    attr "y1" (Scalar.fixed gradient.startY 6) ++ " " ++
    attr "x2" (Scalar.fixed gradient.endX 6) ++ " " ++
    attr "y2" (Scalar.fixed gradient.endY 6) ++ ">" ++ stops gradient.stops ++
    "</linearGradient>"

/-- The points of a radial gradient are given in its own space, which its
transform leads out of. -/
def radialGradient (gradient : RadialGradient α) : String :=
  let inward := gradient.transform.inverse
  let focus := inward.apply ⟨gradient.startX, gradient.startY⟩
  let center := inward.apply ⟨gradient.endX, gradient.endY⟩
  let transform :=
    if gradient.transform.isIdentity then ""
    else " " ++ attr "gradientTransform"
      ("matrix(" ++ numbers 6 gradient.transform.toList ++ ")")
  "<radialGradient id=\"gradient\"" ++ transform ++ " " ++
    attr "fx" (Scalar.fixed focus.x 6) ++ " " ++ attr "fy" (Scalar.fixed focus.y 6) ++
    " " ++ attr "fr" (Scalar.fixed gradient.startRadius 6) ++ " " ++
    attr "cx" (Scalar.fixed center.x 6) ++ " " ++ attr "cy" (Scalar.fixed center.y 6) ++
    " " ++ attr "r" (Scalar.fixed gradient.endRadius 6) ++ ">" ++ stops gradient.stops ++
    "</radialGradient>"

def warning (message : String) (layer : LayerInfo α) : Log :=
  Log.note .warning message (some layer) []

/-- The fill attribute, the definitions it refers to, and what cannot be drawn. -/
def fill (layer : LayerInfo α) (opacity : α) : String × String × Log :=
  match layer.activeFill? with
  | none => ("fill=\"none\"", "", [])
  | some (.color own) => (paint "fill" own opacity, "", [])
  | some (.linear gradient) => ("fill=\"url(#gradient)\"", linearGradient gradient, [])
  | some (.radial gradient) => ("fill=\"url(#gradient)\"", radialGradient gradient, [])
  | some (.angular _) =>
      ("fill=\"none\"", "", warning "Angular gradient fills are not supported on shapes" layer)
  | some (.image _) =>
      ("fill=\"none\"", "", warning "Image fills are not supported on shapes" layer)

/-- The first dash and the first gap stand for the whole pattern; a missing gap
is as long as the dash. -/
def dashes (stroke : Stroke α) : String :=
  match stroke.dashes with
  | [] => ""
  | dash :: rest =>
      if stroke.isDashed then
        " " ++ attr "stroke-dasharray" (numbers 2 [dash, rest.headD dash]) ++
          (if stroke.dashOffset == 0.0 then ""
            else " " ++ attr "stroke-dashoffset" (Scalar.fixed stroke.dashOffset 2))
      else ""

def stroke (layer : LayerInfo α) (opacity : α) : String × Log :=
  match layer.activeStroke? with
  | none => ("stroke=\"none\"", [])
  | some own =>
      (paint "stroke" own.color opacity ++ " " ++
          attr "stroke-width" (Scalar.fixed own.width 2) ++ dashes own ++
          (if own.join = .miter && !(own.miterLimit == Stroke.usualMiterLimit) then
            " " ++ attr "stroke-miterlimit" (Scalar.fixed own.miterLimit 2) else "") ++
          (if own.cap = .butt then "" else " " ++ attr "stroke-linecap" own.cap.name) ++
          (if own.join = .miter then "" else " " ++ attr "stroke-linejoin" own.join.name),
        if own.position = .center then []
        else warning "Only centre strokes are supported on shapes" layer)

def arc (radius x y : α) : String :=
  "A" ++ numbers 2 [radius, radius] ++ " 0 0 1 " ++ numbers 2 [x, y]

/-- The outline of a box. Radii are at most half the shorter side. -/
def boxOutline (width height : α) (radii : CornerRadii α) : String :=
  if radii.isZero then
    "M0 0H" ++ Scalar.fixed width 2 ++ "V" ++ Scalar.fixed height 2 ++ "H0Z"
  else
    let most := Scalar.least width height / 2.0
    let topLeft := Scalar.least radii.topLeft most
    let topRight := Scalar.least radii.topRight most
    let bottomRight := Scalar.least radii.bottomRight most
    let bottomLeft := Scalar.least radii.bottomLeft most
    "M" ++ Scalar.fixed topLeft 2 ++ " 0H" ++ Scalar.fixed (width - topRight) 2 ++
      arc topRight width topRight ++ "V" ++ Scalar.fixed (height - bottomRight) 2 ++
      arc bottomRight (width - bottomRight) height ++ "H" ++ Scalar.fixed bottomLeft 2 ++
      arc bottomLeft 0.0 (height - bottomLeft) ++ "V" ++ Scalar.fixed topLeft 2 ++
      arc topLeft topLeft 0.0 ++ "Z"

/-- Two half ellipses. -/
def ellipseOutline (width height : α) : String :=
  let radiusX := Scalar.fixed (width / 2.0) 2
  let radiusY := Scalar.fixed (height / 2.0) 2
  "M" ++ radiusX ++ " 0A" ++ radiusX ++ " " ++ radiusY ++ " 0 0 1 " ++ radiusX ++ " " ++
    Scalar.fixed height 2 ++ "A" ++ radiusX ++ " " ++ radiusY ++ " 0 0 1 " ++ radiusX ++ " 0Z"

def outline (layer : LayerInfo α) : String :=
  match layer.kind with
  | .rectangle radii => boxOutline layer.localBounds.width layer.localBounds.height radii
  | .ellipse => ellipseOutline layer.localBounds.width layer.localBounds.height
  | kind => kind.outline?.getD ""

/-- A primitive starts where its local bounds do. -/
def path (opacityOf : OpacityOf α) (layer : LayerInfo α) : String × Log :=
  let opacity := opacityOf layer
  let (fillText, definitions, fillLog) := fill layer opacity
  let (strokeText, strokeLog) := stroke layer opacity
  let shadowLog :=
    if layer.visibleShadow?.isSome then warning "Shadows are not supported on shapes" layer else []
  let placed := layer.transform.after (Affine.shift layer.localBounds.x layer.localBounds.y)
  let transformText :=
    match transform? placed with
    | some written => attr "transform" written ++ " "
    | none => ""
  let definitionText := if definitions.isEmpty then "" else "<defs>" ++ definitions ++ "</defs>"
  (definitionText ++ "<path " ++ transformText ++ attr "d" (outline layer) ++ " " ++ fillText ++
      " " ++ strokeText ++ " />",
    fillLog ++ strokeLog ++ shadowLog)

/-- The group around the members of a nested unit. -/
def frameOpening (frame : LayerInfo α) : String :=
  match transform? frame.transform with
  | some written => "<g " ++ attr "transform" written ++ ">"
  | none => "<g>"

mutual

def member (opacityOf : OpacityOf α) : ShapeMember α → String × Log
  | .primitive layer => path opacityOf layer
  | .nested frame inner =>
      let (body, log) := members opacityOf inner
      (frameOpening frame ++ body ++ "</g>", log)

def members (opacityOf : OpacityOf α) : List (ShapeMember α) → String × Log
  | [] => ("", [])
  | first :: rest =>
      let (text, log) := member opacityOf first
      let (others, otherLog) := members opacityOf rest
      (text ++ others, log ++ otherLog)

end

/-- Some primitive of the unit itself is moved or distorted. -/
def isTransformed (unit : ShapeUnit α) : Bool :=
  unit.members.any (fun member =>
    match member with
    | .primitive layer => !layer.transform.isIdentity
    | .nested _ _ => false)

/-- The picture of a unit in its own view box. -/
def render (opacityOf : OpacityOf α) (unit : ShapeUnit α) : String × Log :=
  let box := unit.viewBox
  let (body, log) := members opacityOf unit.members
  let grouped := if isTransformed unit then "<g>" ++ body ++ "</g>" else body
  ("<svg viewBox=\"" ++ numbers 1 [box.x, box.y, box.width, box.height] ++ "\" >" ++ grouped ++
      "</svg>",
    log)

end DesignExport.Markup

namespace DesignExport.ShapeUnit

variable {α : Type} [Scalar α]

/-- The markup of a unit, and the unit that remembers it. What cannot be drawn is
said when the markup is rendered, not when it is remembered. -/
def markup (opacityOf : Markup.OpacityOf α) (unit : ShapeUnit α) : String × ShapeUnit α × Log :=
  match unit.knownMarkup with
  | some known => (known, unit, [])
  | none =>
      let (text, log) := Markup.render opacityOf unit
      (text, { unit.withBox with knownMarkup := some text }, log)

/-- The identifier of the markup, and the unit that remembers both. -/
def id (opacityOf : Markup.OpacityOf α) (unit : ShapeUnit α) : String × ShapeUnit α × Log :=
  match unit.knownId with
  | some known => (known, unit, [])
  | none =>
      let (text, rendered, log) := unit.markup opacityOf
      let name := markupId text
      (name, { rendered with knownId := some name }, log)

end DesignExport.ShapeUnit
