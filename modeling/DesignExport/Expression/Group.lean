import DesignExport.Compile.AssetImage
import DesignExport.Expression.Box
import DesignExport.Expression.Child
import DesignExport.Expression.Scroll
set_option autoImplicit false

/-! Groups. The children stand above each other, or in a row or column if the
group arranges them as a stack. The first child can be the background. -/

namespace DesignExport.Group

variable {α : Type} [Scalar α]

/-- An image that is rendered from the whole group. It states its own size. -/
def writeRendered (node : NodeInfo α) : Compile α (String × Layout α) := do
  let unit := (← Compile.settings).widthUnit
  let path ← Compile.addRender node.layer
  pure ("Image(" ++ Box.sizeArguments node.layer unit ++ "image: " ++ AssetImage.write path ++ ", )",
    { node.layout with shouldFixSize := false })

def flexWidget : Orientation → String
  | .vertical => "Column"
  | .horizontal => "Row"

/-- The argument for a size along the axis of a stack. -/
def axisArgument : Orientation → String
  | .vertical => "height"
  | .horizontal => "width"

def lengthAlong (layer : LayerInfo α) : Orientation → α
  | .vertical => layer.localBounds.height
  | .horizontal => layer.localBounds.width

/-- A child with its length along the axis. Images state theirs themselves. -/
def cell (orientation : Orientation) (unit : String) (layer : LayerInfo α) (code : String) : String :=
  if (Text.afterStart? "Image(".toList code.toList).isSome then code
  else
    "SizedBox(" ++ axisArgument orientation ++ ": " ++
      Dart.dimension (lengthAlong layer orientation) unit ++ ", child: " ++ code ++ ", )"

/-- The gap that is written in front of a cell, and whether the stack has had its
trimmed gap by then. -/
def trimOnce (hasTrimmed : Bool) (gap : α) : α × Bool :=
  if hasTrimmed then (gap, true)
  else
    match trimmed? gap with
    | some shorter => (shorter, true)
    | none => (gap, false)

def spacer (orientation : Orientation) (unit : String) (gap : α) : String :=
  if (0.0 : α) < gap then
    "SizedBox(" ++ axisArgument orientation ++ ": " ++ Dart.dimension gap unit ++ ", ), "
  else ""

/-- The cells of a stack with the gap in front of each. A child without code has
neither a cell nor a gap. -/
def cells (orientation : Orientation) (unit : String) (hasTrimmed : Bool) :
    List (α × Child α) → Compile α (String × List (Node α))
  | [] => pure ("", [])
  | (gap, child) :: rest => do
      let (code, node) ← child.write (fun layout => { layout with shouldFixSize := false })
      if code.isEmpty then
        let (codes, nodes) ← cells orientation unit hasTrimmed rest
        pure (codes, node :: nodes)
      else
        let (written, trimmedNow) := trimOnce hasTrimmed gap
        let (codes, nodes) ← cells orientation unit trimmedNow rest
        pure (spacer orientation unit written ++ cell orientation unit node.layer code ++ ", " ++ codes,
          node :: nodes)

/-- Each child behind the first one has a gap in front of it. -/
def withGaps (gaps : List α) (children : List (Child α)) : List (α × Child α) :=
  (0.0 :: gaps).zip children

/-- Layers are in drawing order, in which the last one is the first cell. -/
def writeFlex (stack : Stack α) (children : List (Child α)) :
    Compile α (String × List (Node α)) := do
  let unit := (← Compile.settings).widthUnit
  let gaps := (stack.spacings.gaps (children.length - 1)).reverse
  let (items, nodes) ←
    cells stack.orientation unit false (withGaps gaps children.reverse)
  pure (flexWidget stack.orientation ++
      "(crossAxisAlignment: CrossAxisAlignment.start, mainAxisAlignment: MainAxisAlignment.start, " ++
      "children: <Widget>[" ++ items ++ "], )",
    nodes.reverse)

/-- The children that are not the background. A single one on a background needs
no stack. -/
def writeChildren (node : NodeInfo α) (hasBackground : Bool) (children : List (Child α)) :
    Compile α (String × List (Node α)) := do
  match node.layer.arrangement.activeStack? with
  | some stack => writeFlex stack children
  | none =>
      match hasBackground, children with
      | true, [only] => do
          let (code, written) ← only.write id
          pure (code, [written])
      | _, _ => Child.writeStack children

def padded (layer : LayerInfo α) (code unit : String) : String :=
  match layer.arrangement.insets? with
  | some insets => "Padding(padding: " ++ insets.write unit ++ ", child: " ++ code ++ ", )"
  | none => code

/-- A decoration goes to the padding, if there is one, so that both are one box. -/
def decorated (decoration code : String) : String :=
  match Text.afterStart? "Padding(".toList code.toList with
  | some rest => "Container(decoration: " ++ decoration ++ ", " ++ String.ofList rest
  | none => "Container(decoration: " ++ decoration ++ ", child: " ++ code ++ ", )"

/-- Draws a layer as the decoration behind code. -/
def onBackground (layer : LayerInfo α) (code unit : String) : Compile α String := do
  if !(layer.rotation == 0.0) || layer.isFlipped then
    Compile.warn "Rotation and flip are not supported on backgrounds" layer
  let opacity ← Compile.inheritedOpacity layer
  let color ←
    match layer.activeFill? with
    | some fill => Compile.noting (Paint.solidColor? fill opacity layer)
    | none => pure none
  let filling := match color with
    | some expression => Box.Filling.color expression
    | none => .empty
  let border ← Box.border layer opacity unit
  pure (decorated
    ("BoxDecoration(" ++ filling.write ++ border ++ Box.rounding layer unit ++ ")") code)

def warnOfMask (layer : LayerInfo α) : Compile α Unit := do
  if layer.isMasked then
    Compile.warn "Masks are not supported; the mask shape is drawn as a layer" layer

/-- The children of a group that has some, on their background if there is one. -/
def writeContent (node : NodeInfo α) (first : Child α) (rest : List (Child α)) :
    Compile α (String × List (Node α)) := do
  let unit := (← Compile.settings).widthUnit
  warnOfMask node.layer
  if node.takesBackground first.node.layer then
    let (code, written) ← writeChildren node true rest
    let onto ← onBackground first.node.layer (padded node.layer code unit) unit
    pure (onto, first.node :: written)
  else
    let (code, written) ← writeChildren node false (first :: rest)
    pure (padded node.layer code unit, written)

/-- A group without children has no code. -/
def write (node : NodeInfo α) (children : List (Child α)) :
    Compile α (String × List (Node α)) := do
  match children with
  | [] => pure ("", [])
  | first :: rest => writeContent node first rest

/-- A group that scrolls its children. -/
def writeScroll (node : NodeInfo α) (direction : ScrollDirection) (children : List (Child α)) :
    Compile α (String × List (Node α)) := do
  match children with
  | [] => pure ("", [])
  | first :: rest => do
      let unit := (← Compile.settings).widthUnit
      let (code, written) ← writeContent node first rest
      let layers := children.map (·.node.layer)
      pure (Scroll.view (Scroll.content layers code unit) direction, written)

end DesignExport.Group
