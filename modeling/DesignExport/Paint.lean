import DesignExport.Dart.Literal
import DesignExport.Diagnostic
set_option autoImplicit false

/-! Expressions for the paint of boxes and texts. Where a kind of paint has no
expression, the result comes with the diagnostics that say so. -/

namespace DesignExport.Paint

variable {α : Type} [Scalar α]

/-- A result together with what there is to say about it. -/
abbrev Noted (β : Type) := β × Log

def commaList (items : List String) : String :=
  String.intercalate ", " items

/-- A point given as fractions of the box. -/
def fractionAlignment (x y : α) : String :=
  "Alignment(" ++ Scalar.fixed (x * 2.0 - 1.0) 3 ++ ", " ++ Scalar.fixed (y * 2.0 - 1.0) 3 ++ ")"

def stopColors (stops : List (ColorStop α)) (opacity : α) : String :=
  commaList (stops.map (fun stop => Dart.colorLiteral stop.color opacity))

def stopPositions (stops : List (ColorStop α)) : String :=
  commaList (stops.map (fun stop => Scalar.fixed stop.position 3))

/-- The expression for a linear or radial gradient; other fills have none. -/
def gradient? (fill : Fill α) (opacity : α) : Option String :=
  match fill with
  | .linear gradient =>
      some ("LinearGradient(begin: " ++ fractionAlignment gradient.startX gradient.startY ++
        ", end: " ++ fractionAlignment gradient.endX gradient.endY ++
        ", colors: [" ++ stopColors gradient.stops opacity ++
        "], stops: [" ++ stopPositions gradient.stops ++ "], )")
  | .radial gradient =>
      some ("RadialGradient(center: " ++ fractionAlignment gradient.endX gradient.endY ++
        ", radius: " ++ Scalar.fixed gradient.endRadius 3 ++
        ", colors: [" ++ stopColors gradient.stops opacity ++
        "], stops: [" ++ stopPositions gradient.stops ++ "], )")
  | _ => none

/-- One colour for a fill. A gradient is replaced by its first colour, which is
worth a warning. -/
def solidColor? (fill : Fill α) (opacity : α) (layer : LayerInfo α) : Noted (Option String) :=
  match fill with
  | .color own => (some (Dart.colorLiteral own opacity), [])
  | .image _ => (none, [])
  | other =>
      (other.firstColor?.map (fun first => Dart.colorLiteral first opacity),
        Log.note .warning ("Unsupported " ++ other.label ++ "; using its first colour") (some layer) [])

/-- Radii at or below this are left out. -/
def radiusBound : α := 1.0

def borderRadius? (radii : CornerRadii α) (unit : String) : Option String :=
  if radii.isUniform then
    if (radiusBound : α) < radii.topLeft then
      some ("BorderRadius.circular(" ++ Dart.dimension radii.topLeft unit ++ ")")
    else none
  else
    let corners :=
      [ ("topLeft", radii.topLeft), ("topRight", radii.topRight),
        ("bottomRight", radii.bottomRight), ("bottomLeft", radii.bottomLeft) ]
    let rounded := corners.filter (fun (_, radius) => (radiusBound : α) < radius)
    if rounded.isEmpty then none
    else
      let arguments := rounded.map
        (fun (corner, radius) => corner ++ ": Radius.circular(" ++ Dart.dimension radius unit ++ ")")
      some ("BorderRadius.only(" ++ commaList arguments ++ ", )")

/-- An ellipse is a box with the largest radii. -/
def ellipseRadius : String :=
  "BorderRadius.all(Radius.elliptical(9999.0, 9999.0))"

def warnIf (condition : Bool) (message : String) (layer : LayerInfo α) : Log :=
  if condition then Log.note .warning message (some layer) [] else []

/-- A border lies inside its box and is a plain line. -/
def border (stroke : Stroke α) (opacity : α) (layer : LayerInfo α) (unit : String) : Noted String :=
  ("Border.all(width: " ++ Dart.dimension stroke.width unit ++
      ", color: " ++ Dart.colorLiteral stroke.color opacity ++ ", )",
    warnIf (stroke.position ≠ .inside) "Only inner strokes are supported on boxes" layer ++
    warnIf (stroke.join ≠ .miter) "Stroke joins other than miter are not supported" layer ++
    warnIf stroke.isDashed "Dashed strokes are not supported on boxes" layer)

/-- The arguments that shadows of boxes and of texts share. -/
def shadowArguments (shadow : Shadow α) (opacity : α) : String :=
  "color: " ++ Dart.colorLiteral shadow.color opacity ++ ", offset: Offset(" ++
    Scalar.fixed shadow.x 1 ++ ", " ++ Scalar.fixed shadow.y 1 ++ "), blurRadius: " ++
    Scalar.fixed shadow.blur 1 ++ ", "

def boxShadow (shadow : Shadow α) (opacity : α) : String :=
  "[BoxShadow(" ++ shadowArguments shadow opacity ++ "), ]"

def textShadow (shadow : Shadow α) (opacity : α) : String :=
  "Shadow(" ++ shadowArguments shadow opacity ++ ")"

end DesignExport.Paint
