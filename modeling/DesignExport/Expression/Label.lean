import DesignExport.Compile.Context
import DesignExport.Expression.Scroll
import DesignExport.TextStyle
import DesignExport.Tree.Node
set_option autoImplicit false

/-! Text layers. A text of one style is flat; a text of several styles is rich.
A rich text has one span for the style of its first run, and a span for each run
that states only what differs from it. -/

namespace DesignExport.Label

variable {α : Type} [Scalar α]

def warnOfRun (layer : LayerInfo α) (run : TextRun α) : Compile α Unit := do
  if run.script ≠ .none then
    Compile.warn "Superscript and subscript are not supported" layer
  if run.transform ≠ .none then
    Compile.warn "Text transforms such as all caps are not supported" layer
  if !(run.paragraphSpacing == 0.0) then
    Compile.warn "Paragraph spacing is not supported" layer

def warnOfRuns (layer : LayerInfo α) : List (TextRun α) → Compile α Unit
  | [] => pure ()
  | run :: rest => do
      warnOfRun layer run
      warnOfRuns layer rest

/-- Says what about a text cannot be carried over. -/
def warnOf (layer : LayerInfo α) (block : TextBlock α) : Compile α Unit := do
  warnOfRuns layer block.runs
  if layer.activeStroke?.isSome then
    Compile.warn "Text strokes are not supported" layer

/-- Records the font of a run. -/
def useFont (run : TextRun α) : Compile α Unit := do
  let font := (← Compile.settings).font run.family
  if font.isEmpty then pure () else Compile.addFont font

def styleArgument (style : TextStyle) : String :=
  if style.isEmpty then "" else "style: " ++ style.write ++ ", "

def alignArgument : TextAlign → String
  | .left => ""
  | .center => "textAlign: TextAlign.center, "
  | .right => "textAlign: TextAlign.right, "

/-- The arguments behind the content and the style. -/
def lastArguments (block : TextBlock α) : String :=
  (if block.lineSpacing == 0.0 then ""
    else "textHeightBehavior: TextHeightBehavior(applyHeightToFirstAscent: false), ") ++
  alignArgument block.align ++
  (if block.box = .point then "softWrap: false, " else "")

/-- A text in the style of its first run. -/
def flat (node : NodeInfo α) (block : TextBlock α) (context : TextContext α) :
    Compile α String := do
  let run := block.runs.headD TextRun.usual
  useFont run
  let style := TextStyle.ofRun run context (← Compile.settings) .full
  let content := node.params.text.getD (Dart.stringLiteral block.text)
  pure ("Text(" ++ content ++ ", " ++ styleArgument style ++ lastArguments block ++ ")")

/-- The characters of each run. Runs without characters are left out; the last
run has all characters that remain. -/
def slices : List (TextRun α) → List Char → List (TextRun α × List Char)
  | [], _ => []
  | run :: rest, chars =>
      if run.length = 0 then slices rest chars
      else if rest.isEmpty then [(run, chars)]
      else (run, chars.take run.length) :: slices rest (chars.drop run.length)

def span (text : List Char) (style : TextStyle) : String :=
  "TextSpan(text: " ++ Dart.stringLiteral (String.ofList text) ++ ", " ++ styleArgument style ++ "), "

def spans (baseline : TextStyle) (context : TextContext α) :
    List (TextRun α × List Char) → Compile α String
  | [] => pure ""
  | (run, text) :: rest => do
      useFont run
      let style := TextStyle.ofRun run context (← Compile.settings) .run
      let others ← spans baseline context rest
      pure (span text (style.delta baseline) ++ others)

def rich (block : TextBlock α) (context : TextContext α) : Compile α String := do
  let first := block.runs.headD TextRun.usual
  let baseline := TextStyle.ofRun first context (← Compile.settings) .baseline
  let spans ← spans baseline context (slices block.runs block.text.toList)
  pure ("Text.rich(TextSpan(" ++ styleArgument baseline ++ "children: [" ++ spans ++ "], ), " ++
    lastArguments block ++ ")")

/-- Parameters can only stand for parts of a flat text. -/
def isFlat (node : NodeInfo α) (block : TextBlock α) : Bool :=
  block.runs.length ≤ 1 || node.params.text.isSome || node.params.fill.isSome

def context (node : NodeInfo α) (block : TextBlock α) : Compile α (TextContext α) := do
  let opacity ← Compile.inheritedOpacity node.layer
  return {
    fill := node.layer.activeFill?.bind Fill.firstColor?
    opacity := opacity
    lineSpacing := block.lineSpacing
    shadow := node.layer.visibleShadow?
    colorParam := node.params.fill }

/-- The width that a moved text is written with, and the bounds that remain for
its layout. Point text that is not aligned to the left gets the space on its left. -/
def widthAndBounds? (block : TextBlock α) (bounds : Rect α) : Option (α × Rect α) :=
  if block.box = .point then
    match block.align with
    | .right => some (bounds.width + bounds.x, { bounds with x := 0.0 })
    | .center => some (bounds.width + bounds.x, { bounds with x := bounds.x / 2.0 })
    | .left => none
  else some (bounds.width, bounds)

/-- Gives a moved text a width, so that wrapping and alignment survive. Text of a
fixed height is sized by its layout. -/
def widened (layout : Layout α) (block : TextBlock α) (code : String) : String × Layout α :=
  if block.box = .fixedHeight || !layout.isEnabled then (code, layout)
  else
    match layout.bounds with
    | none => (code, layout)
    | some bounds =>
        match widthAndBounds? block bounds with
        | none => (code, { layout with shouldFixSize := false })
        | some (width, rest) =>
            ("SizedBox(width: " ++ Scalar.fixed width 0 ++ ", child: " ++ code ++ ", )",
              { layout with shouldFixSize := false, bounds := some rest })

def place (layout : Layout α) (block : TextBlock α) (code : String) : String × Layout α :=
  if !layout.isFixedSize then (code, { layout with shouldExpand := true })
  else if layout.type = .translate then widened layout block code
  else (code, layout)

def write (node : NodeInfo α) : Compile α (String × Layout α) := do
  match node.layer.kind with
  | .text block =>
      warnOf node.layer block
      let context ← context node block
      let code ← if isFlat node block then flat node block context else rich block context
      let clipped := if block.isClipped then Scroll.vertical code else code
      pure (place node.layout block clipped)
  | _ => pure ("", node.layout)

end DesignExport.Label
