import DesignExport.Compile.Context
import DesignExport.Tree.Node
set_option autoImplicit false

/-! Decorators of nodes: where they come from and what they wrap code in. The
comment with the name of a layer stands outside of all of them. -/

namespace DesignExport

variable {α : Type} [Scalar α]

/-- The constant for the way in which a page appears. -/
def Transition.constant (transition : Transition α) : String :=
  let direction := transition.fromDirection.getD "R"
  if transition.kind = "none" then "None"
  else if transition.kind = "slide" then
    if direction = "L" then "SlideRight"
    else if direction = "T" then "SlideDown"
    else if direction = "B" then "SlideUp"
    else "SlideLeft"
  else if transition.kind = "push" then
    if direction = "L" then "PushRight"
    else if direction = "T" then "PushDown"
    else if direction = "B" then "PushUp"
    else "PushLeft"
  else "Fade"

def Transition.curves : List (String × String) :=
  [ ("linear", "linear"), ("ease-in", "easeIn"), ("ease-in-out", "easeInOut"),
    ("ease-in-back", "easeInBack"), ("ease-out-back", "easeOutBack"),
    ("ease-in-out-back", "easeInOutBack"), ("bounce", "bounceOut"), ("snap", "fastOutSlowIn") ]

def Transition.curve (transition : Transition α) : String :=
  (Table.find? transition.easing Transition.curves).getD "easeOut"

namespace Decorator

def apply (child : String) : Decorator α → Compile α String
  | .tap callback =>
      pure ("GestureDetector(onTap: () => " ++ callback ++ "?.call(), child: " ++ child ++ ", )")
  | .pageLink widget transition => do
      Compile.addImport "package:adobe_xd/page_link.dart"
      pure ("PageLink(links: [PageLinkInfo(transition: LinkTransition." ++
        transition.constant ++ ", ease: Curves." ++ transition.curve ++ ", duration: " ++
        Scalar.fixed transition.duration 2 ++ ", pageBuilder: () => " ++ widget ++
        "(), ), ], child: " ++ child ++ ", )")
  | .blur amount => do
      Compile.addImportAs "dart:ui" "ui"
      let sigma := Scalar.fixed amount 1
      pure ("ClipRect(child: BackdropFilter(filter: ui.ImageFilter.blur(sigmaX: " ++ sigma ++
        ", sigmaY: " ++ sigma ++ "), child: " ++ child ++ ", ), )")

def applyAll (code : String) : List (Decorator α) → Compile α String
  | [] => pure code
  | decorator :: rest => do applyAll (← decorator.apply code) rest

/-- The parameter that a tap on the layer calls. -/
def tap? (layer : LayerInfo α) : Compile α (Option (Decorator α)) := do
  match layer.textProperty? .tapCallbackName with
  | none => pure none
  | some raw =>
      let callback := Naming.identifier raw false
      Compile.addParam ⟨callback, .voidCallback, none, false⟩
      pure (some (.tap callback))

/-- The first interaction that leads to a widget is the link; the others are
passed over with a warning. -/
def pageLink? (layer : LayerInfo α) :
    Option (Decorator α) → List (Interaction α) → Compile α (Option (Decorator α))
  | link, [] => pure link
  | link, interaction :: rest => do
      if interaction.trigger ≠ "tap" then
        Compile.warn ("Unsupported interaction trigger '" ++ interaction.trigger ++ "'") layer
        pageLink? layer link rest
      else
        match interaction.action, link with
        | .goToArtboard destination transition, none =>
            match (← get).widgetName? destination with
            | some widget => pageLink? layer (some (.pageLink widget transition)) rest
            | none =>
                Compile.warn "Prototype link target is not an artboard" layer
                pageLink? layer none rest
        | .goToArtboard _ _, some found =>
            Compile.warn "Only one prototype link per layer is supported" layer
            pageLink? layer (some found) rest
        | _, link =>
            Compile.warn "Only 'go to artboard' interactions are supported" layer
            pageLink? layer link rest

def blur? (layer : LayerInfo α) : Compile α (Option (Decorator α)) := do
  match layer.visibleBlur? with
  | none => pure none
  | some effect =>
      if effect.isBackground then pure (some (.blur effect.amount))
      else
        Compile.warn "Object blur is not supported" layer
        pure none

/-- The decorators of a layer from the inside out. Layers that are replaced by
other code cannot be tapped. -/
def collect (layer : LayerInfo α) (canBeTapped : Bool) : Compile α (List (Decorator α)) := do
  let tap ← if canBeTapped then tap? layer else pure none
  let link ←
    if (← Compile.settings).enablePrototype then pageLink? layer none layer.interactions
    else pure none
  let blur ← blur? layer
  pure (tap.toList ++ link.toList ++ blur.toList)

end Decorator

/-- Longer names are cut in comments. -/
def commentLength : Nat := 20

/-- Names the layer in a comment after the first opening parenthesis. -/
def layerComment (code : String) (layer : LayerInfo α) : String :=
  let name := Text.shorten (Text.trim layer.name) commentLength
  let line := "// Layer: '" ++ name ++ "' (" ++ layer.kind.label ++ ")\n"
  match Text.cutAround? ['('] code.toList with
  | some (before, after) => String.ofList before ++ "(\n" ++ line ++ String.ofList after
  | none => line ++ code

end DesignExport
