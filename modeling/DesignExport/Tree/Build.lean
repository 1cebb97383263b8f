import DesignExport.Compile.AssetImage
import DesignExport.Tree.Decoration
set_option autoImplicit false

/-! Building the tree. Hidden layers are left out without a word; layers that
cannot be drawn are left out with a diagnostic. Parameters of the widget are
registered while the tree is built. -/

namespace DesignExport

variable {α : Type} [Scalar α]

/-- How a layer wants to appear. A mode that is not known counts as inline. -/
def ExportMode.ofLayer (layer : LayerInfo α) : Compile α ExportMode := do
  match layer.textProperty? .exportMode with
  | none => pure .inline
  | some name =>
      match ExportMode.ofName? name with
      | some mode => pure mode
      | none =>
          Compile.warn ("Unknown export mode '" ++ name ++ "'") layer
          pure .inline

namespace NodeKind

/-- An instance of a component calls the widget of its master. -/
def ofComponent (layer : LayerInfo α) (isMaster : Bool) (symbol : String) :
    Compile α (NodeKind α) := do
  let context ← get
  let master :=
    if isMaster then some layer.guid else (context.index.master? symbol).map (·.guid)
  match master.bind context.widgetName? with
  | some widget => pure (.group (.instanceOf widget))
  | none =>
      Compile.warn "Master component not found; exporting the instance as a group" layer
      pure (.group .plain)

/-- What a visible layer becomes, unless it cannot be drawn. -/
def ofLayer? (layer : LayerInfo α) : Compile α (Option (NodeKind α)) := do
  match layer.kind with
  | .artboard =>
      Compile.error "Artboards cannot be nested inside other layers" layer
      pure none
  | .group => pure (some (.group .plain))
  | .scrollGroup direction => pure (some (.group (.scroll direction)))
  | .rectangle _ | .ellipse => pure (some .box)
  | .path _ | .line _ | .polygon _ | .booleanGroup _ =>
      pure (some (.shape (ShapeUnit.ofPrimitive layer)))
  | .text _ => pure (some .text)
  | .component isMaster symbol => do return some (← ofComponent layer isMaster symbol)
  | .unknown =>
      Compile.warn ("Unsupported layer type '" ++ layer.kind.label ++ "'") layer
      pure none

/-- Instances and childless kinds have no nodes below them. -/
def takesChildren : NodeKind α → Bool
  | .widgetRoot | .group .plain | .group (.scroll _) => true
  | _ => false

end NodeKind

namespace RoleParams

/-- Registers a parameter with a default, if the layer names one. -/
def expose (layer : LayerInfo α) (property : Property) (type : DartType) (default : String) :
    Compile α (Option String) := do
  match layer.textProperty? property with
  | none => pure none
  | some raw =>
      let name := Naming.identifier raw false
      Compile.addParam ⟨name, type, some default, false⟩
      pure (some name)

def ofText (layer : LayerInfo α) (block : TextBlock α) : Compile α RoleParams := do
  let text ← expose layer .textParamName .string (Dart.stringLiteral block.text)
  let fill ←
    match layer.activeFill?.bind Fill.firstColor? with
    | some color => expose layer .colorParamName .color (Dart.colorLiteral color (1.0 : α))
    | none => pure none
  pure { text := text, fill := fill }

def ofBox (layer : LayerInfo α) : Compile α RoleParams := do
  match layer.activeFill? with
  | some (.color color) =>
      let fill ← expose layer .colorParamName .color (Dart.colorLiteral color (1.0 : α))
      pure { fill := fill }
  | some (.image _) =>
      if (layer.textProperty? .imageParamName).isSome then
        let image ← AssetImage.ofFill layer
        let fill ← expose layer .imageParamName .imageProvider image
        pure { fill := fill }
      else pure {}
  | _ => pure {}

/-- Registers the parameters that a layer exposes. In builder mode the whole
layer is one. -/
def register (layer : LayerInfo α) (kind : NodeKind α) (mode : ExportMode) :
    Compile α RoleParams := do
  if mode = .builder then
    let name := layer.builderName (← Compile.settings).normalizeNameCase
    Compile.addParam ⟨name, .widgetBuilder, none, true⟩
    pure { builder := some name }
  else
    match layer.kind, kind with
    | .text block, _ => ofText layer block
    | _, .box => ofBox layer
    | _, _ => pure {}

end RoleParams

/-- The layout of a layer in its owner. -/
def Layout.ofLayer (layer : LayerInfo α) : Compile α (Layout α) := do
  let parent := (← get).index.parentOf? layer.guid
  return Layout.ofInput (LayoutInput.ofLayer layer (parent.map (·.toLayerInfo)))

namespace Node

/-- Layers in builder and custom mode are replaced and cannot be tapped. -/
def canBeTapped (mode : ExportMode) : Bool :=
  mode = .inline || mode = .method

mutual

def build : Layer α → Compile α (Option (Node α))
  | ⟨layer, children⟩ => do
      if !layer.isVisible then pure none
      else
        match ← NodeKind.ofLayer? layer with
        | none => pure none
        | some kind =>
            let mode ← ExportMode.ofLayer layer
            let layout ← Layout.ofLayer layer
            let decorators ← Decorator.collect layer (canBeTapped mode)
            let nodes ← if kind.takesChildren then buildAll children else pure []
            let params ← RoleParams.register layer kind mode
            pure (some ⟨⟨layer, kind, layout, decorators, mode, params⟩, nodes⟩)

def buildAll : List (Layer α) → Compile α (List (Node α))
  | [] => pure []
  | layer :: rest => do
      let node ← build layer
      let nodes ← buildAll rest
      pure (node.toList ++ nodes)

end

/-- The root of a widget. It is not placed by any layout. -/
def buildRoot (layer : Layer α) : Compile α (Node α) := do
  let nodes ← buildAll layer.children
  pure ⟨⟨layer.toLayerInfo, .widgetRoot, Layout.ofInput LayoutInput.none, [], .inline, {}⟩, nodes⟩

end Node

end DesignExport
