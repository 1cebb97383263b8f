import DesignExport.Compile.Context
import DesignExport.Dart.Literal
import DesignExport.Shape.Markup
import DesignExport.Tree.Node
set_option autoImplicit false

/-! Shapes as pictures. In files the markup becomes a constant; in a piece of
code for the clipboard it is written in place. -/

namespace DesignExport.Picture

variable {α : Type} [Scalar α]

def markup (unit : ShapeUnit α) : Compile α (String × ShapeUnit α) := do
  let (text, known, log) := unit.markup (← get).index.inheritedOpacity
  Compile.note log
  pure (text, known)

def id (unit : ShapeUnit α) : Compile α (String × ShapeUnit α) := do
  let (name, known, log) := unit.id (← get).index.inheritedOpacity
  Compile.note log
  pure (name, known)

/-- The expression for the markup. -/
def source (unit : ShapeUnit α) : Compile α (String × ShapeUnit α) := do
  match (← get).target with
  | .clipboard =>
      let (text, known) ← markup unit
      pure (Dart.stringLiteral text, known)
  | .files =>
      let (name, named) ← id unit
      let (text, known) ← markup named
      Compile.addPicture name text
      pure (name, known)

/-- Shapes that were merged take more room than the layer that stands for them. -/
def place (layout : Layout α) (unit : ShapeUnit α) : Layout α :=
  match layout.input.parent with
  | some parent =>
      layout.recalculateWithBounds
        (unit.boundsInParent.translate (-parent.content.x) (-parent.content.y))
  | none => layout

/-- A picture without a fixed size fills its box. -/
def write (layout : Layout α) (unit : ShapeUnit α) :
    Compile α (String × Layout α × ShapeUnit α) := do
  let placed := place layout unit
  let (data, known) ← source unit
  Compile.addImport "package:flutter_svg/flutter_svg.dart"
  let opening := "SvgPicture.string(" ++ data ++ ", allowDrawingOutsideViewBox: true, "
  if placed.isFixedSize then pure (opening ++ ")", placed, known)
  else pure (opening ++ "fit: BoxFit.fill, )", { placed with shouldExpand := true }, known)

end DesignExport.Picture
