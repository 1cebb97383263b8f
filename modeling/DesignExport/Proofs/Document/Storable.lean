import DesignExport.Proofs.Json.Restores
set_option autoImplicit false

/-! Documents that can be stored. Their numbers are finite, counts fit into 64 bits, and stored
properties have different keys and values with their records in order. -/

namespace DesignExport

structure Rect.IsStorable (rect : Rect Float) : Prop where
  x : rect.x.isFinite = true
  y : rect.y.isFinite = true
  width : rect.width.isFinite = true
  height : rect.height.isFinite = true

def Affine.IsStorable (map : Affine Float) : Prop :=
  ∀ entry ∈ map.toList, entry.isFinite = true

def ColorStop.IsStorable (stop : ColorStop Float) : Prop :=
  stop.position.isFinite = true

structure LinearGradient.IsStorable (gradient : LinearGradient Float) : Prop where
  startX : gradient.startX.isFinite = true
  startY : gradient.startY.isFinite = true
  endX : gradient.endX.isFinite = true
  endY : gradient.endY.isFinite = true
  stops : ∀ stop ∈ gradient.stops, stop.IsStorable

structure RadialGradient.IsStorable (gradient : RadialGradient Float) : Prop where
  startX : gradient.startX.isFinite = true
  startY : gradient.startY.isFinite = true
  startRadius : gradient.startRadius.isFinite = true
  endX : gradient.endX.isFinite = true
  endY : gradient.endY.isFinite = true
  endRadius : gradient.endRadius.isFinite = true
  transform : gradient.transform.IsStorable
  stops : ∀ stop ∈ gradient.stops, stop.IsStorable

structure ImageFill.IsStorable (image : ImageFill Float) : Prop where
  naturalWidth : image.naturalWidth.isFinite = true
  naturalHeight : image.naturalHeight.isFinite = true

def Fill.IsStorable : Fill Float → Prop
  | .color _ => True
  | .linear gradient => gradient.IsStorable
  | .radial gradient => gradient.IsStorable
  | .angular stops => ∀ stop ∈ stops, stop.IsStorable
  | .image content => content.IsStorable

structure Stroke.IsStorable (stroke : Stroke Float) : Prop where
  width : stroke.width.isFinite = true
  dashes : ∀ dash ∈ stroke.dashes, dash.isFinite = true
  dashOffset : stroke.dashOffset.isFinite = true
  miterLimit : stroke.miterLimit.isFinite = true

structure Shadow.IsStorable (shadow : Shadow Float) : Prop where
  x : shadow.x.isFinite = true
  y : shadow.y.isFinite = true
  blur : shadow.blur.isFinite = true

structure Blur.IsStorable (blur : Blur Float) : Prop where
  amount : blur.amount.isFinite = true
  brightness : blur.brightness.isFinite = true
  fillOpacity : blur.fillOpacity.isFinite = true

def Spacings.IsStorable : Spacings Float → Prop
  | .uniform gap => gap.isFinite = true
  | .perGap gaps => ∀ gap ∈ gaps, gap.isFinite = true

def Stack.IsStorable (stack : Stack Float) : Prop :=
  stack.spacings.IsStorable

structure EdgeValues.IsStorable (edges : EdgeValues Float) : Prop where
  top : edges.top.isFinite = true
  right : edges.right.isFinite = true
  bottom : edges.bottom.isFinite = true
  left : edges.left.isFinite = true

def PaddingValues.IsStorable : PaddingValues Float → Prop
  | .uniform value => value.isFinite = true
  | .edges values => values.IsStorable

def PaddingRecord.IsStorable (padding : PaddingRecord Float) : Prop :=
  ∀ values ∈ padding.values, values.IsStorable

structure Arrangement.IsStorable (arrangement : Arrangement Float) : Prop where
  stack : ∀ stack ∈ arrangement.stack, stack.IsStorable
  padding : ∀ padding ∈ arrangement.padding, padding.IsStorable

structure TextRun.IsStorable (run : TextRun Float) : Prop where
  length : run.length < 2 ^ 64
  size : run.size.isFinite = true
  charSpacing : run.charSpacing.isFinite = true
  paragraphSpacing : run.paragraphSpacing.isFinite = true

structure TextBlock.IsStorable (block : TextBlock Float) : Prop where
  runs : ∀ run ∈ block.runs, run.IsStorable
  lineSpacing : block.lineSpacing.isFinite = true

def Transition.IsStorable (transition : Transition Float) : Prop :=
  transition.duration.isFinite = true

def InteractionAction.IsStorable : InteractionAction Float → Prop
  | .goToArtboard _ transition => transition.IsStorable
  | .goBack => True
  | .unsupported => True

def Interaction.IsStorable (interaction : Interaction Float) : Prop :=
  interaction.action.IsStorable

structure CornerRadii.IsStorable (radii : CornerRadii Float) : Prop where
  topLeft : radii.topLeft.isFinite = true
  topRight : radii.topRight.isFinite = true
  bottomRight : radii.bottomRight.isFinite = true
  bottomLeft : radii.bottomLeft.isFinite = true

def LayerKind.IsStorable : LayerKind Float → Prop
  | .rectangle radii => radii.IsStorable
  | .text block => block.IsStorable
  | _ => True

structure LayerInfo.IsStorable (layer : LayerInfo Float) : Prop where
  kind : layer.kind.IsStorable
  transform : layer.transform.IsStorable
  localBounds : layer.localBounds.IsStorable
  rotation : layer.rotation.isFinite = true
  opacity : layer.opacity.isFinite = true
  fill : ∀ fill ∈ layer.fill, fill.IsStorable
  stroke : ∀ stroke ∈ layer.stroke, stroke.IsStorable
  shadow : ∀ shadow ∈ layer.shadow, shadow.IsStorable
  blur : ∀ blur ∈ layer.blur, blur.IsStorable
  arrangement : layer.arrangement.IsStorable
  interactions : ∀ interaction ∈ layer.interactions, interaction.IsStorable
  properties : layer.properties.IsStorable

/-- The layer and all layers below it. -/
def Layer.IsStorable (layer : Layer Float) : Prop :=
  layer.toLayerInfo.IsStorable ∧ ∀ below ∈ flattenAll layer.children, below.toLayerInfo.IsStorable

def ColorAsset.IsStorable (asset : ColorAsset Float) : Prop :=
  ∀ fill ∈ asset.gradient, fill.IsStorable

def TextStyleAsset.IsStorable (asset : TextStyleAsset Float) : Prop :=
  asset.style.IsStorable

structure Assets.IsStorable (assets : Assets Float) : Prop where
  colors : ∀ color ∈ assets.colors, color.IsStorable
  textStyles : ∀ style ∈ assets.textStyles, style.IsStorable

structure Document.IsStorable (document : Document Float) : Prop where
  properties : document.properties.IsStorable
  layers : ∀ layer ∈ Layer.flattenAll document.children, layer.toLayerInfo.IsStorable
  assets : document.assets.IsStorable

end DesignExport
