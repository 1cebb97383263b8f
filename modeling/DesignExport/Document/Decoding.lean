import DesignExport.Document.Layer
import DesignExport.Json.Decoder
set_option autoImplicit false

/-! Reading design documents from JSON. Every record type lists its fields in
the order in which a list may give them. -/

namespace DesignExport.Decoding

open DesignExport.Json
open DesignExport.Json.Decoder (field requiredField)

def color : Decoder Color :=
  Decoder.record
    [ requiredField "r" Decoder.byte (fun color red => { color with red }),
      requiredField "g" Decoder.byte (fun color green => { color with green }),
      requiredField "b" Decoder.byte (fun color blue => { color with blue }),
      field "a" Decoder.byte (fun color alpha => { color with alpha }) ]
    ⟨0, 0, 0, 255⟩

def rect : Decoder (Rect Float) :=
  Decoder.record
    [ field "x" Decoder.float (fun rect x => { rect with x }),
      field "y" Decoder.float (fun rect y => { rect with y }),
      field "width" Decoder.float (fun rect width => { rect with width }),
      field "height" Decoder.float (fun rect height => { rect with height }) ]
    Rect.zero

def affine : Decoder (Affine Float) := fun origin reading =>
  match Decoder.exactly Decoder.float 6 origin reading with
  | .error fault => .error fault
  | .ok numbers =>
      match Affine.ofList? numbers with
      | some map => .ok map
      | none => .error .misfit

def colorStop : Decoder (ColorStop Float) :=
  Decoder.record
    [ requiredField "stop" Decoder.float (fun stop position => { stop with position }),
      requiredField "color" color (fun stop color => { stop with color }) ]
    ⟨0.0, default⟩

def linearGradient : Decoder (LinearGradient Float) :=
  Decoder.record
    [ requiredField "startX" Decoder.float (fun gradient startX => { gradient with startX }),
      requiredField "startY" Decoder.float (fun gradient startY => { gradient with startY }),
      requiredField "endX" Decoder.float (fun gradient endX => { gradient with endX }),
      requiredField "endY" Decoder.float (fun gradient endY => { gradient with endY }),
      requiredField "colorStops" (Decoder.list colorStop)
        (fun gradient stops => { gradient with stops }) ]
    ⟨0.0, 0.0, 0.0, 0.0, []⟩

def radialGradient : Decoder (RadialGradient Float) :=
  Decoder.record
    [ requiredField "startX" Decoder.float (fun gradient startX => { gradient with startX }),
      requiredField "startY" Decoder.float (fun gradient startY => { gradient with startY }),
      requiredField "startR" Decoder.float (fun gradient startRadius => { gradient with startRadius }),
      requiredField "endX" Decoder.float (fun gradient endX => { gradient with endX }),
      requiredField "endY" Decoder.float (fun gradient endY => { gradient with endY }),
      requiredField "endR" Decoder.float (fun gradient endRadius => { gradient with endRadius }),
      field "gradientTransform" affine (fun gradient transform => { gradient with transform }),
      requiredField "colorStops" (Decoder.list colorStop)
        (fun gradient stops => { gradient with stops }) ]
    ⟨0.0, 0.0, 0.0, 0.0, 0.0, 0.0, Affine.identity, []⟩

def angularStops : Decoder (List (ColorStop Float)) :=
  Decoder.record [ field "colorStops" (Decoder.list colorStop) (fun _ stops => stops) ] []

def imageScales : List (String × ImageScale) :=
  [("cover", .cover), ("stretch", .stretch)]

def imageFill : Decoder (ImageFill Float) :=
  Decoder.record
    [ field "fileName" (Decoder.optional Decoder.text) (fun image fileName => { image with fileName }),
      field "scaleBehavior" (Decoder.choice imageScales) (fun image scale => { image with scale }),
      field "naturalWidth" Decoder.float (fun image naturalWidth => { image with naturalWidth }),
      field "naturalHeight" Decoder.float (fun image naturalHeight => { image with naturalHeight }) ]
    ⟨none, .cover, 0.0, 0.0⟩

inductive FillTag where
  | color
  | linear
  | radial
  | angular
  | image

def fillTags : List (String × FillTag) :=
  [ ("color", .color), ("linearGradient", .linear), ("radialGradient", .radial),
    ("angularGradient", .angular), ("imageFill", .image) ]

def fillContent : FillTag → Decoder (Fill Float)
  | .color => fun origin reading => (color origin reading).map .color
  | .linear => fun origin reading => (linearGradient origin reading).map .linear
  | .radial => fun origin reading => (radialGradient origin reading).map .radial
  | .angular => fun origin reading => (angularStops origin reading).map .angular
  | .image => fun origin reading => (imageFill origin reading).map .image

def fill : Decoder (Fill Float) :=
  Decoder.tagged (Decoder.lookUp fillTags) fillContent

def strokePositions : List (String × StrokePosition) :=
  [("center", .center), ("inside", .inside), ("outside", .outside)]

def strokeJoins : List (String × StrokeJoin) :=
  [("miter", .miter), ("round", .round), ("bevel", .bevel)]

def strokeCaps : List (String × StrokeCap) :=
  [("butt", .butt), ("round", .round), ("square", .square)]

def stroke : Decoder (Stroke Float) :=
  Decoder.record
    [ requiredField "color" color (fun stroke color => { stroke with color }),
      field "width" Decoder.float (fun stroke width => { stroke with width }),
      field "enabled" Decoder.flag (fun stroke isEnabled => { stroke with isEnabled }),
      field "position" (Decoder.choice strokePositions)
        (fun stroke position => { stroke with position }),
      field "join" (Decoder.choice strokeJoins) (fun stroke join => { stroke with join }),
      field "cap" (Decoder.choice strokeCaps) (fun stroke cap => { stroke with cap }),
      field "dashArray" (Decoder.list Decoder.float) (fun stroke dashes => { stroke with dashes }),
      field "dashOffset" Decoder.float (fun stroke dashOffset => { stroke with dashOffset }),
      field "miterLimit" Decoder.float (fun stroke miterLimit => { stroke with miterLimit }) ]
    ⟨default, 1.0, true, .center, .miter, .butt, [], 0.0, Stroke.usualMiterLimit⟩

def shadow : Decoder (Shadow Float) :=
  Decoder.record
    [ field "x" Decoder.float (fun shadow x => { shadow with x }),
      field "y" Decoder.float (fun shadow y => { shadow with y }),
      field "blur" Decoder.float (fun shadow blur => { shadow with blur }),
      requiredField "color" color (fun shadow color => { shadow with color }),
      field "visible" Decoder.flag (fun shadow isVisible => { shadow with isVisible }) ]
    ⟨0.0, 0.0, 0.0, default, true⟩

def blur : Decoder (Blur Float) :=
  Decoder.record
    [ requiredField "amount" Decoder.float (fun blur amount => { blur with amount }),
      field "brightness" Decoder.float (fun blur brightness => { blur with brightness }),
      field "fillOpacity" Decoder.float (fun blur fillOpacity => { blur with fillOpacity }),
      field "visible" Decoder.flag (fun blur isVisible => { blur with isVisible }),
      field "isBackgroundEffect" Decoder.flag
        (fun blur isBackground => { blur with isBackground }) ]
    ⟨0.0, 0.0, 1.0, true, false⟩

def constraints : Decoder ResizeConstraints :=
  Decoder.record
    [ field "left" Decoder.flag (fun constraints left => { constraints with left }),
      field "right" Decoder.flag (fun constraints right => { constraints with right }),
      field "top" Decoder.flag (fun constraints top => { constraints with top }),
      field "bottom" Decoder.flag (fun constraints bottom => { constraints with bottom }),
      field "width" Decoder.flag (fun constraints width => { constraints with width }),
      field "height" Decoder.flag (fun constraints height => { constraints with height }) ]
    {}

def groupArrangements : List (String × GroupArrangement) :=
  [("none", .none), ("stack", .stack), ("padding", .padding)]

def orientations : List (String × Orientation) :=
  [("vertical", .vertical), ("horizontal", .horizontal)]

def spacings : Decoder (Spacings Float) :=
  Decoder.either
    (fun origin reading => (Decoder.float origin reading).map .uniform)
    (fun origin reading => (Decoder.list Decoder.float origin reading).map .perGap)

def stack : Decoder (Stack Float) :=
  Decoder.record
    [ requiredField "orientation" (Decoder.choice orientations)
        (fun stack orientation => { stack with orientation }),
      field "spacings" spacings (fun stack spacings => { stack with spacings }) ]
    ⟨.vertical, .uniform 0.0⟩

def edgeValues : Decoder (EdgeValues Float) :=
  Decoder.record
    [ field "top" Decoder.float (fun edges top => { edges with top }),
      field "right" Decoder.float (fun edges right => { edges with right }),
      field "bottom" Decoder.float (fun edges bottom => { edges with bottom }),
      field "left" Decoder.float (fun edges left => { edges with left }) ]
    ⟨0.0, 0.0, 0.0, 0.0⟩

def paddingValues : Decoder (PaddingValues Float) :=
  Decoder.either
    (fun origin reading => (Decoder.float origin reading).map .uniform)
    (fun origin reading => (edgeValues origin reading).map .edges)

def paddingRecord : Decoder (PaddingRecord Float) :=
  Decoder.record
    [ field "values" (Decoder.optional paddingValues) (fun padding values => { padding with values }),
      field "background" (Decoder.optional Decoder.text)
        (fun padding background => { padding with background }) ]
    ⟨none, none⟩

def arrangement : Decoder (Arrangement Float) :=
  Decoder.record
    [ field "resizeConstraints" (Decoder.optional constraints)
        (fun arrangement constraints => { arrangement with constraints }),
      field "type" (Decoder.choice groupArrangements)
        (fun arrangement kind => { arrangement with kind }),
      field "stack" (Decoder.optional stack) (fun arrangement stack => { arrangement with stack }),
      field "padding" (Decoder.optional paddingRecord)
        (fun arrangement padding => { arrangement with padding }) ]
    Arrangement.plain

def textAligns : List (String × TextAlign) :=
  [("left", .left), ("center", .center), ("right", .right)]

def textBoxes : List (String × TextBox) :=
  [("point", .point), ("fixedHeight", .fixedHeight), ("autoHeight", .autoHeight)]

def textScripts : List (String × TextScript) :=
  [("none", .none), ("superscript", .superscript), ("subscript", .subscript)]

def textTransforms : List (String × TextTransform) :=
  [ ("none", .none), ("uppercase", .uppercase), ("lowercase", .lowercase),
    ("titleCase", .titleCase) ]

def textRun : Decoder (TextRun Float) :=
  Decoder.record
    [ field "length" Decoder.count (fun run length => { run with length }),
      field "fontFamily" Decoder.text (fun run family => { run with family }),
      field "fontStyle" Decoder.text (fun run style => { run with style }),
      field "fontSize" Decoder.float (fun run size => { run with size }),
      field "fill" (Decoder.optional color) (fun run fill => { run with fill }),
      field "charSpacing" Decoder.float (fun run charSpacing => { run with charSpacing }),
      field "underline" Decoder.flag (fun run isUnderlined => { run with isUnderlined }),
      field "strikethrough" Decoder.flag (fun run isStruck => { run with isStruck }),
      field "textScript" (Decoder.choice textScripts) (fun run script => { run with script }),
      field "textTransform" (Decoder.choice textTransforms)
        (fun run transform => { run with transform }),
      field "paragraphSpacing" Decoder.float
        (fun run paragraphSpacing => { run with paragraphSpacing }) ]
    TextRun.usual

def textBlock : Decoder (TextBlock Float) :=
  Decoder.record
    [ field "text" Decoder.text (fun block text => { block with text }),
      field "styleRanges" (Decoder.list textRun) (fun block runs => { block with runs }),
      field "textAlign" (Decoder.choice textAligns) (fun block align => { block with align }),
      field "layoutBox" (Decoder.choice textBoxes) (fun block box => { block with box }),
      field "clippedByArea" Decoder.flag (fun block isClipped => { block with isClipped }),
      field "lineSpacing" Decoder.float (fun block lineSpacing => { block with lineSpacing }) ]
    TextBlock.empty

def transition : Decoder (Transition Float) :=
  Decoder.record
    [ field "type" Decoder.text (fun transition kind => { transition with kind }),
      field "duration" Decoder.float (fun transition duration => { transition with duration }),
      field "easing" Decoder.text (fun transition easing => { transition with easing }),
      field "fromDirection" (Decoder.optional Decoder.text)
        (fun transition fromDirection => { transition with fromDirection }) ]
    Transition.usual

inductive ActionTag where
  | goToArtboard
  | goBack
  | unsupported

/-- Actions that are not known count as unsupported. -/
def actionTag (name : String) : Except Fault ActionTag :=
  if name = "goToArtboard" then .ok .goToArtboard
  else if name = "goBack" then .ok .goBack
  else .ok .unsupported

def goToArtboard : Decoder (String × Transition Float) :=
  Decoder.record
    [ requiredField "destination" Decoder.text (fun (_, transition) name => (name, transition)),
      field "transition" transition (fun (name, _) transition => (name, transition)) ]
    ("", Transition.usual)

def action : Decoder (InteractionAction Float) :=
  Decoder.tagged actionTag (fun tag =>
    match tag with
    | .goToArtboard => fun origin reading =>
        (goToArtboard origin reading).map (fun (name, transition) => .goToArtboard name transition)
    | .goBack => Decoder.noContent .goBack
    | .unsupported => Decoder.noContent .unsupported)

def interaction : Decoder (Interaction Float) :=
  Decoder.record
    [ requiredField "trigger" Decoder.text
        (fun interaction trigger => { interaction with trigger }),
      requiredField "action" action (fun interaction action => { interaction with action }) ]
    ⟨"", .unsupported⟩

def scrollDirections : List (String × ScrollDirection) :=
  [("vertical", .vertical), ("horizontal", .horizontal), ("panning", .panning)]

def cornerRadii : Decoder (CornerRadii Float) :=
  Decoder.record
    [ field "topLeft" Decoder.float (fun radii topLeft => { radii with topLeft }),
      field "topRight" Decoder.float (fun radii topRight => { radii with topRight }),
      field "bottomRight" Decoder.float (fun radii bottomRight => { radii with bottomRight }),
      field "bottomLeft" Decoder.float (fun radii bottomLeft => { radii with bottomLeft }) ]
    CornerRadii.none

inductive KindTag where
  | artboard
  | group
  | scrollGroup
  | rectangle
  | ellipse
  | path
  | line
  | polygon
  | booleanGroup
  | text
  | component
  | unknown

def kindTags : List (String × KindTag) :=
  [ ("artboard", .artboard), ("group", .group), ("scrollableGroup", .scrollGroup),
    ("rectangle", .rectangle), ("ellipse", .ellipse), ("path", .path), ("line", .line),
    ("polygon", .polygon), ("booleanGroup", .booleanGroup), ("text", .text),
    ("component", .component) ]

/-- Kinds that are not known count as unknown. -/
def kindTag (name : String) : Except Fault KindTag :=
  match Decoder.lookUp kindTags name with
  | .ok tag => .ok tag
  | .error _ => .ok .unknown

def outline : Decoder String :=
  Decoder.record [ field "pathData" Decoder.text (fun _ outline => outline) ] ""

def component : Decoder (Bool × String) :=
  Decoder.record
    [ field "isMaster" Decoder.flag (fun (_, symbol) isMaster => (isMaster, symbol)),
      requiredField "symbolId" Decoder.text (fun (isMaster, _) symbol => (isMaster, symbol)) ]
    (false, "")

def kindContent : KindTag → Decoder (LayerKind Float)
  | .artboard => Decoder.noContent .artboard
  | .group => Decoder.noContent .group
  | .scrollGroup => fun origin reading =>
      (Decoder.record
        [ field "scroll" (Decoder.choice scrollDirections) (fun _ direction => direction) ]
        ScrollDirection.vertical origin reading).map .scrollGroup
  | .rectangle => fun origin reading =>
      (Decoder.record [ field "cornerRadii" cornerRadii (fun _ radii => radii) ]
        CornerRadii.none origin reading).map .rectangle
  | .ellipse => Decoder.noContent .ellipse
  | .path => fun origin reading => (outline origin reading).map .path
  | .line => fun origin reading => (outline origin reading).map .line
  | .polygon => fun origin reading => (outline origin reading).map .polygon
  | .booleanGroup => fun origin reading => (outline origin reading).map .booleanGroup
  | .text => fun origin reading => (textBlock origin reading).map .text
  | .component => fun origin reading =>
      (component origin reading).map (fun (isMaster, symbol) => .component isMaster symbol)
  | .unknown => Decoder.noContent .unknown

def kind : Decoder (LayerKind Float) :=
  Decoder.tagged kindTag kindContent

/-- The fields of a layer; `children` decodes the layers below it. -/
def layerFields (children : Decoder (List (Layer Float))) : List (Decoder.Field (Layer Float)) :=
  [ requiredField "guid" Decoder.text (fun layer guid => { layer with guid }),
    field "name" Decoder.text (fun layer name => { layer with name }),
    field "hasDefaultName" Decoder.flag (fun layer hasDefaultName => { layer with hasDefaultName }),
    requiredField "kind" kind (fun layer kind => { layer with kind }),
    field "visible" Decoder.flag (fun layer isVisible => { layer with isVisible }),
    field "transform" affine (fun layer transform => { layer with transform }),
    field "localBounds" rect (fun layer localBounds => { layer with localBounds }),
    field "rotation" Decoder.float (fun layer rotation => { layer with rotation }),
    field "flipY" Decoder.flag (fun layer isFlipped => { layer with isFlipped }),
    field "opacity" Decoder.float (fun layer opacity => { layer with opacity }),
    field "fill" (Decoder.optional fill) (fun layer fill => { layer with fill }),
    field "fillEnabled" Decoder.flag (fun layer isFillEnabled => { layer with isFillEnabled }),
    field "stroke" (Decoder.optional stroke) (fun layer stroke => { layer with stroke }),
    field "shadow" (Decoder.optional shadow) (fun layer shadow => { layer with shadow }),
    field "blur" (Decoder.optional blur) (fun layer blur => { layer with blur }),
    field "layout" arrangement (fun layer arrangement => { layer with arrangement }),
    field "mask" Decoder.flag (fun layer isMasked => { layer with isMasked }),
    field "interactions" (Decoder.list interaction)
      (fun layer interactions => { layer with interactions }),
    field "markedForExport" Decoder.flag
      (fun layer isMarkedForExport => { layer with isMarkedForExport }),
    field "pluginData" (Decoder.table Decoder.value)
      (fun layer properties => { layer with properties }),
    field "children" children (fun layer children => { layer with children }) ]

/-- Layers of at most `levels` nested values. -/
def layerWithin : Nat → Decoder (Layer Float)
  | 0 => fun _ reading => .error reading.misfit
  | levels + 1 =>
      Decoder.record (layerFields (Decoder.list (layerWithin levels))) (Layer.usual "" "" .unknown)

def layer : Decoder (Layer Float) := fun origin reading =>
  layerWithin (reading.depth + 1) origin reading

def colorAsset : Decoder (ColorAsset Float) :=
  Decoder.record
    [ field "name" (Decoder.optional Decoder.text) (fun asset name => { asset with name }),
      field "color" (Decoder.optional color) (fun asset color => { asset with color }),
      field "gradient" (Decoder.optional fill) (fun asset gradient => { asset with gradient }) ]
    ⟨none, none, none⟩

def textStyleAsset : Decoder (TextStyleAsset Float) :=
  Decoder.record
    [ field "name" (Decoder.optional Decoder.text) (fun asset name => { asset with name }),
      requiredField "style" textRun (fun asset style => { asset with style }) ]
    ⟨none, TextRun.usual⟩

def assets : Decoder (Assets Float) :=
  Decoder.record
    [ field "colors" (Decoder.list colorAsset) (fun assets colors => { assets with colors }),
      field "characterStyles" (Decoder.list textStyleAsset)
        (fun assets textStyles => { assets with textStyles }) ]
    ⟨[], []⟩

def document : Decoder (Document Float) :=
  Decoder.record
    [ field "pluginData" (Decoder.table Decoder.value)
        (fun document properties => { document with properties }),
      field "children" (Decoder.list layer) (fun document children => { document with children }),
      field "assets" assets (fun document assets => { document with assets }) ]
    Document.empty

end DesignExport.Decoding

namespace DesignExport

def Document.ofText? (source : String) : Except Json.Fault (Document Float) :=
  Json.decodeText Decoding.document source

end DesignExport
