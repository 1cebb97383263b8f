import DesignExport.Document.Decoding
set_option autoImplicit false

/-! Writing design documents as JSON values. Every field is written, also those
that have their default; an absent optional value is null. -/

namespace DesignExport.Encoding

open DesignExport.Json (recordOf)

/-- Only finite numbers can be written. -/
def float (value : Float) : Json :=
  if value.isFinite then .number (.fraction value) else .null

def count (value : Nat) : Json :=
  .number (.whole value)

def optional {β : Type} (encode : β → Json) : Option β → Json
  | none => .null
  | some value => encode value

def list {β : Type} (encode : β → Json) (values : List β) : Json :=
  .list (values.map encode)

/-- The name of a choice in the list that decoding looks it up in. -/
def choice {β : Type} [DecidableEq β] (names : List (String × β)) (value : β) : Json :=
  match names.find? (fun (_, known) => known = value) with
  | some (name, _) => .text name
  | none => .null

def byte (value : UInt8) : Json :=
  count value.toNat

def color (color : Color) : Json :=
  recordOf
    [ ("r", byte color.red), ("g", byte color.green), ("b", byte color.blue),
      ("a", byte color.alpha) ]

def rect (rect : Rect Float) : Json :=
  recordOf
    [ ("x", float rect.x), ("y", float rect.y), ("width", float rect.width),
      ("height", float rect.height) ]

def affine (map : Affine Float) : Json :=
  list float map.toList

def colorStop (stop : ColorStop Float) : Json :=
  recordOf [("stop", float stop.position), ("color", color stop.color)]

def stops (stops : List (ColorStop Float)) : Json :=
  list colorStop stops

def fill : Fill Float → Json
  | .color own =>
      recordOf
        [ ("type", .text "color"), ("r", byte own.red), ("g", byte own.green),
          ("b", byte own.blue), ("a", byte own.alpha) ]
  | .linear gradient =>
      recordOf
        [ ("type", .text "linearGradient"), ("startX", float gradient.startX),
          ("startY", float gradient.startY), ("endX", float gradient.endX),
          ("endY", float gradient.endY), ("colorStops", stops gradient.stops) ]
  | .radial gradient =>
      recordOf
        [ ("type", .text "radialGradient"), ("startX", float gradient.startX),
          ("startY", float gradient.startY), ("startR", float gradient.startRadius),
          ("endX", float gradient.endX), ("endY", float gradient.endY),
          ("endR", float gradient.endRadius), ("gradientTransform", affine gradient.transform),
          ("colorStops", stops gradient.stops) ]
  | .angular own => recordOf [("type", .text "angularGradient"), ("colorStops", stops own)]
  | .image image =>
      recordOf
        [ ("type", .text "imageFill"), ("fileName", optional .text image.fileName),
          ("scaleBehavior", choice Decoding.imageScales image.scale),
          ("naturalWidth", float image.naturalWidth),
          ("naturalHeight", float image.naturalHeight) ]

def stroke (stroke : Stroke Float) : Json :=
  recordOf
    [ ("color", color stroke.color), ("width", float stroke.width),
      ("enabled", .flag stroke.isEnabled),
      ("position", choice Decoding.strokePositions stroke.position),
      ("join", choice Decoding.strokeJoins stroke.join),
      ("cap", choice Decoding.strokeCaps stroke.cap), ("dashArray", list float stroke.dashes),
      ("dashOffset", float stroke.dashOffset), ("miterLimit", float stroke.miterLimit) ]

def shadow (shadow : Shadow Float) : Json :=
  recordOf
    [ ("x", float shadow.x), ("y", float shadow.y), ("blur", float shadow.blur),
      ("color", color shadow.color), ("visible", .flag shadow.isVisible) ]

def blur (blur : Blur Float) : Json :=
  recordOf
    [ ("amount", float blur.amount), ("brightness", float blur.brightness),
      ("fillOpacity", float blur.fillOpacity), ("visible", .flag blur.isVisible),
      ("isBackgroundEffect", .flag blur.isBackground) ]

def constraints (constraints : ResizeConstraints) : Json :=
  recordOf
    [ ("left", .flag constraints.left), ("right", .flag constraints.right),
      ("top", .flag constraints.top), ("bottom", .flag constraints.bottom),
      ("width", .flag constraints.width), ("height", .flag constraints.height) ]

def spacings : Spacings Float → Json
  | .uniform gap => float gap
  | .perGap gaps => list float gaps

def stack (stack : Stack Float) : Json :=
  recordOf
    [ ("orientation", choice Decoding.orientations stack.orientation),
      ("spacings", spacings stack.spacings) ]

def paddingValues : PaddingValues Float → Json
  | .uniform value => float value
  | .edges edges =>
      recordOf
        [ ("top", float edges.top), ("right", float edges.right), ("bottom", float edges.bottom),
          ("left", float edges.left) ]

def paddingRecord (padding : PaddingRecord Float) : Json :=
  recordOf
    [ ("values", optional paddingValues padding.values),
      ("background", optional .text padding.background) ]

def arrangement (arrangement : Arrangement Float) : Json :=
  recordOf
    [ ("resizeConstraints", optional constraints arrangement.constraints),
      ("type", choice Decoding.groupArrangements arrangement.kind),
      ("stack", optional stack arrangement.stack),
      ("padding", optional paddingRecord arrangement.padding) ]

def textRun (run : TextRun Float) : Json :=
  recordOf
    [ ("length", count run.length), ("fontFamily", .text run.family),
      ("fontStyle", .text run.style), ("fontSize", float run.size),
      ("fill", optional color run.fill), ("charSpacing", float run.charSpacing),
      ("underline", .flag run.isUnderlined), ("strikethrough", .flag run.isStruck),
      ("textScript", choice Decoding.textScripts run.script),
      ("textTransform", choice Decoding.textTransforms run.transform),
      ("paragraphSpacing", float run.paragraphSpacing) ]

def transition (transition : Transition Float) : Json :=
  recordOf
    [ ("type", .text transition.kind), ("duration", float transition.duration),
      ("easing", .text transition.easing),
      ("fromDirection", optional .text transition.fromDirection) ]

def action : InteractionAction Float → Json
  | .goToArtboard destination own =>
      recordOf
        [ ("type", .text "goToArtboard"), ("destination", .text destination),
          ("transition", transition own) ]
  | .goBack => recordOf [("type", .text "goBack")]
  | .unsupported => recordOf [("type", .text "unsupported")]

def interaction (interaction : Interaction Float) : Json :=
  recordOf [("trigger", .text interaction.trigger), ("action", action interaction.action)]

def cornerRadii (radii : CornerRadii Float) : Json :=
  recordOf
    [ ("topLeft", float radii.topLeft), ("topRight", float radii.topRight),
      ("bottomRight", float radii.bottomRight), ("bottomLeft", float radii.bottomLeft) ]

def outlined (kind outline : String) : Json :=
  recordOf [("type", .text kind), ("pathData", .text outline)]

def kind : LayerKind Float → Json
  | .artboard => recordOf [("type", .text "artboard")]
  | .group => recordOf [("type", .text "group")]
  | .scrollGroup direction =>
      recordOf
        [ ("type", .text "scrollableGroup"),
          ("scroll", choice Decoding.scrollDirections direction) ]
  | .rectangle radii =>
      recordOf [("type", .text "rectangle"), ("cornerRadii", cornerRadii radii)]
  | .ellipse => recordOf [("type", .text "ellipse")]
  | .path outline => outlined "path" outline
  | .line outline => outlined "line" outline
  | .polygon outline => outlined "polygon" outline
  | .booleanGroup outline => outlined "booleanGroup" outline
  | .text block =>
      recordOf
        [ ("type", .text "text"), ("text", .text block.text),
          ("styleRanges", list textRun block.runs),
          ("textAlign", choice Decoding.textAligns block.align),
          ("layoutBox", choice Decoding.textBoxes block.box),
          ("clippedByArea", .flag block.isClipped), ("lineSpacing", float block.lineSpacing) ]
  | .component isMaster symbol =>
      recordOf
        [("type", .text "component"), ("isMaster", .flag isMaster), ("symbolId", .text symbol)]
  | .unknown => recordOf [("type", .text "unknown")]

/-- The members of a layer; the layers below it are already written. -/
def layerMembers (layer : LayerInfo Float) (children : List Json) : List (String × Json) :=
  [ ("guid", .text layer.guid), ("name", .text layer.name),
    ("hasDefaultName", .flag layer.hasDefaultName), ("kind", kind layer.kind),
    ("visible", .flag layer.isVisible), ("transform", affine layer.transform),
    ("localBounds", rect layer.localBounds), ("rotation", float layer.rotation),
    ("flipY", .flag layer.isFlipped), ("opacity", float layer.opacity),
    ("fill", optional fill layer.fill), ("fillEnabled", .flag layer.isFillEnabled),
    ("stroke", optional stroke layer.stroke), ("shadow", optional shadow layer.shadow),
    ("blur", optional blur layer.blur), ("layout", arrangement layer.arrangement),
    ("mask", .flag layer.isMasked), ("interactions", list interaction layer.interactions),
    ("markedForExport", .flag layer.isMarkedForExport), ("pluginData", .record layer.properties),
    ("children", .list children) ]

mutual

def layer : Layer Float → Json
  | ⟨info, children⟩ => recordOf (layerMembers info (layers children))

def layers : List (Layer Float) → List Json
  | [] => []
  | first :: rest => layer first :: layers rest

end

def colorAsset (asset : ColorAsset Float) : Json :=
  recordOf
    [ ("name", optional .text asset.name), ("color", optional color asset.color),
      ("gradient", optional fill asset.gradient) ]

def textStyleAsset (asset : TextStyleAsset Float) : Json :=
  recordOf [("name", optional .text asset.name), ("style", textRun asset.style)]

def assets (assets : Assets Float) : Json :=
  recordOf
    [ ("colors", list colorAsset assets.colors),
      ("characterStyles", list textStyleAsset assets.textStyles) ]

/-- A document as a value. The order in which stored properties were entered is
kept. -/
def document (document : Document Float) : Json :=
  recordOf
    [ ("pluginData", .record document.properties), ("children", .list (layers document.children)),
      ("assets", assets document.assets) ]

end DesignExport.Encoding
