import DesignExport.Export.Error
import DesignExport.Export.SourceFile
import DesignExport.Expression.Node
import DesignExport.Tree.Build
import DesignExport.Tree.Merge
set_option autoImplicit false

/-! Compiling the layer of a widget to a file, and any layer to a piece of code. -/

namespace DesignExport

variable {α : Type} [Scalar α]

/-- The class that a layer is compiled to. -/
def widgetClass (layer : LayerInfo α) : Compile α String := do
  let context ← get
  pure ((context.widgetName? layer.guid).getD (Naming.widgetClassName layer context.settings))

/-- The code of a widget and the tables for it. -/
def widgetCode (layer : Layer α) (className : String) : Compile α (String × WidgetScope) := do
  Compile.beginWidget className
  let root ← Node.buildRoot layer
  let merged := root.combineShapes (← Compile.settings).combineShapes
  let (body, _) ← merged.write
  pure (body, ← Compile.finishWidget)

/-- The file of a widget. -/
def compileWidget (layer : Layer α) : Compile α (Except ExportError SourceFile) := do
  let className ← widgetClass layer.toLayerInfo
  let (body, scope) ← widgetCode layer className
  if body.isEmpty then pure (.error (.nothingToExport className))
  else
    let nullSafe := (← Compile.settings).nullSafe
    pure (.ok (SourceFile.ofWidget className body scope nullSafe))

/-- The widget that images of a piece of code are filed under. -/
def snippetWidget (layer : Layer α) : Compile α String := do
  let context ← get
  pure (((context.index.widgetRootOf? layer).bind
    (fun widget => context.widgetName? widget.guid)).getD "snippet")

/-- Code for a layer that is placed by whoever pastes it. -/
def compileSnippet (layer : Layer α) : Compile α (Except ExportError String) := do
  Compile.beginWidget (← snippetWidget layer)
  match ← Node.build layer with
  | none => pure (.error (.nothingToExport layer.name))
  | some node =>
      let placed := { node with layout := { node.layout with isEnabled := false } }
      let merged := placed.combineShapes (← Compile.settings).combineShapes
      let (code, _) ← merged.write
      let _ ← Compile.finishWidget
      if code.isEmpty then pure (.error (.nothingToExport layer.name)) else pure (.ok code)

end DesignExport
