import DesignExport.Expression.Child
import DesignExport.Paint
set_option autoImplicit false

/-! The roots of widgets. Artboards are pages; master components are stacks. -/

namespace DesignExport.Root

variable {α : Type} [Scalar α]

/-- The layer whose fill colours a page: the background, if it has a fill. -/
def fillOwner (node : NodeInfo α) (children : List (Child α)) : LayerInfo α :=
  match children with
  | first :: _ =>
      if node.takesBackground first.node.layer && first.node.layer.activeFill?.isSome then
        first.node.layer
      else node.layer
  | [] => node.layer

/-- Pages have one colour. -/
def pageColor (owner : LayerInfo α) : Compile α (Option String) := do
  match owner.activeFill? with
  | none => pure none
  | some (.color own) => pure (some (Dart.colorLiteral own (1.0 : α)))
  | some (.image _) =>
      Compile.warn "Image fills are not supported on artboards" owner
      pure none
  | some fill =>
      Compile.warn "Only solid colour backgrounds are supported on artboards" owner
      pure (fill.firstColor?.map (fun first => Dart.colorLiteral first (1.0 : α)))

/-- One layer on a background is the whole body of its page. -/
def writeBody (node : NodeInfo α) (children : List (Child α)) :
    Compile α (String × List (Node α)) := do
  match children with
  | [first, only] =>
      if node.takesBackground first.node.layer then
        let (code, written) ← only.write id
        pure (code, [first.node, written])
      else Child.writeStack children
  | _ => Child.writeStack children

def writePage (node : NodeInfo α) (children : List (Child α)) :
    Compile α (String × List (Node α)) := do
  let color ← pageColor (fillOwner node children)
  let (body, nodes) ← writeBody node children
  let background := match color with
    | some expression => "backgroundColor: " ++ expression ++ ", "
    | none => ""
  pure ("Scaffold(" ++ background ++ "body: " ++ body ++ ", )", nodes)

def write (node : NodeInfo α) (children : List (Child α)) :
    Compile α (String × List (Node α)) := do
  match node.layer.kind with
  | .artboard => writePage node children
  | _ => Child.writeStack children

end DesignExport.Root
