import DesignExport.Expression.Group
import DesignExport.Expression.Label
import DesignExport.Expression.Picture
import DesignExport.Expression.Root
import DesignExport.Expression.Template
import DesignExport.Tree.Decoration
set_option autoImplicit false

/-! The expression of a node: the code for the node itself, its layout and its
decorators around that, and the place that its export mode puts it in. -/

namespace DesignExport

variable {α : Type} [Scalar α]

namespace NodeInfo

/-- The code for the node itself, without layout and decorators. -/
def writeBody (node : NodeInfo α) (children : List (Child α)) : Compile α (Written α) := do
  match node.kind with
  | .widgetRoot => do
      let (code, nodes) ← Root.write node children
      pure (code, ⟨node, nodes⟩)
  | .box => do
      let (code, layout) ← Box.write node
      pure (code, ⟨{ node with layout := layout }, Child.nodes children⟩)
  | .text => do
      let (code, layout) ← Label.write node
      pure (code, ⟨{ node with layout := layout }, Child.nodes children⟩)
  | .shape unit => do
      let (code, layout, known) ← Picture.write node.layout unit
      pure (code, ⟨{ node with layout := layout, kind := .shape known }, Child.nodes children⟩)
  | .group kind =>
      if node.layer.isMarkedForExport then do
        let (code, layout) ← Group.writeRendered node
        pure (code, ⟨{ node with layout := layout }, Child.nodes children⟩)
      else
        match kind with
        | .instanceOf widget => pure (widget ++ "()", ⟨node, Child.nodes children⟩)
        | .plain => do
            let (code, nodes) ← Group.write node children
            pure (code, ⟨node, nodes⟩)
        | .scroll direction => do
            let (code, nodes) ← Group.writeScroll node direction children
            pure (code, ⟨node, nodes⟩)

/-- Layout, decorators and the comment with the name of the layer. -/
def decorate (node : NodeInfo α) (code : String) : Compile α (String × Layout α) := do
  let settings ← Compile.settings
  let (placed, layout, log) := node.layout.wrap code node.layer settings.widthUnit
  Compile.note log
  let decorated ← Decorator.applyAll placed node.decorators
  if settings.includeNameComments && !node.layer.hasDefaultName then
    pure (layerComment decorated node.layer, layout)
  else pure (decorated, layout)

/-- The whole expression. No code stays no code. -/
def writeInline (node : NodeInfo α) (children : List (Child α)) : Compile α (Written α) := do
  let (body, written) ← writeBody node children
  if body.isEmpty then pure (body, written)
  else
    let (code, layout) ← written.decorate body
    pure (code, { written with layout := layout })

def call (name : String) : String :=
  name ++ "(context)"

def writeMethod (node : NodeInfo α) (children : List (Child α)) : Compile α (Written α) := do
  let (code, written) ← writeInline node children
  if code.isEmpty then pure (code, written)
  else
    let name := node.layer.methodName (← Compile.settings).normalizeNameCase
    Compile.addMethod name code
    pure (call name, written)

def usualTemplate : String := "Container()"

def templateSettings (node : NodeInfo α) (cut : Template.Cut) : Compile α Template.Settings := do
  match cut.settings with
  | none => pure {}
  | some text =>
      match Template.readSettings text with
      | .ok settings => pure settings
      | .error fault =>
          Compile.warn
            ("Unable to parse placeholder settings in custom code: " ++ fault.message) node.layer
          pure {}

/-- How children are placed inside a template. -/
def editForTemplate (wanted : Template.ChildLayout) (layout : Layout α) : Layout α :=
  match wanted with
  | .asDesigned => layout
  | .none => { layout with isEnabled := false }
  | .size => layout.reset true

def writePlaceholder (node : NodeInfo α) (children : List (Child α))
    (placeholder : Template.Placeholder) (settings : Template.Settings) :
    Compile α (Written α) := do
  match placeholder with
  | .children => do
      let (codes, nodes) ← Child.writeList (editForTemplate settings.childLayout) children
      pure (codes, ⟨node, nodes⟩)
  | .this => if settings.decorators then writeInline node children else writeBody node children

/-- The template of a layer with its first placeholder replaced. What is put in
is not searched for placeholders. -/
def writeTemplate (node : NodeInfo α) (children : List (Child α)) : Compile α (Written α) := do
  let template := (node.layer.textProperty? .customCode).getD usualTemplate
  match Template.cut? template.toList with
  | none => pure (template, ⟨node, Child.nodes children⟩)
  | some cut => do
      let settings ← templateSettings node cut
      let (code, written) ← writePlaceholder node children cut.placeholder settings
      pure (String.ofList cut.before ++ code ++ String.ofList cut.after, written)

def writeBuilder (node : NodeInfo α) (children : List (Child α)) : Compile α (Written α) := do
  let settings ← Compile.settings
  let name := node.params.builder.getD (node.layer.builderName settings.normalizeNameCase)
  pure (call name, ⟨node, Child.nodes children⟩)

/-- The code that stands where the node is. -/
def write (node : NodeInfo α) (children : List (Child α)) : Compile α (Written α) := do
  match node.mode with
  | .inline => writeInline node children
  | .method => writeMethod node children
  | .builder => writeBuilder node children
  | .custom => writeTemplate node children

end NodeInfo

namespace Node

mutual

/-- Writes a node once its layout has been edited. -/
def writeWith : Node α → (Layout α → Layout α) → Compile α (Written α)
  | ⟨node, children⟩, edit =>
      NodeInfo.write { node with layout := edit node.layout } (asChildren children)

def asChildren : List (Node α) → List (Child α)
  | [] => []
  | node :: rest => ⟨node, writeWith node⟩ :: asChildren rest

end

def write (node : Node α) : Compile α (Written α) :=
  writeWith node id

end Node

end DesignExport
