import DesignExport.FontStyle
import DesignExport.Paint
import DesignExport.Settings
set_option autoImplicit false

/-! Styles of text runs as arguments of a style expression. A rich text has one
baseline style, and each of its runs states only where it differs from it. -/

namespace DesignExport

variable {α : Type} [Scalar α]

inductive StyleKey where
  | fontFamily
  | fontSize
  | color
  | letterSpacing
  | fontStyle
  | fontWeight
  | decoration
  | height
  | shadows
deriving DecidableEq

namespace StyleKey

def name : StyleKey → String
  | .fontFamily => "fontFamily"
  | .fontSize => "fontSize"
  | .color => "color"
  | .letterSpacing => "letterSpacing"
  | .fontStyle => "fontStyle"
  | .fontWeight => "fontWeight"
  | .decoration => "decoration"
  | .height => "height"
  | .shadows => "shadows"

/-- In the order in which they are written. -/
def all : List StyleKey :=
  [ .fontFamily, .fontSize, .color, .letterSpacing, .fontStyle, .fontWeight, .decoration, .height,
    .shadows ]

end StyleKey

/-- Which keys a style has. -/
inductive StyleScope where
  /-- All of them, for texts of one style. -/
  | full
  /-- The common style of a rich text. -/
  | baseline
  /-- The style of one run of a rich text. -/
  | run
deriving DecidableEq

def StyleScope.includes : StyleScope → StyleKey → Bool
  | .full, _ => true
  | .baseline, .fontStyle | .baseline, .fontWeight | .baseline, .decoration => false
  | .baseline, _ => true
  | .run, .height | .run, .shadows => false
  | .run, _ => true

/-- What the runs of a text layer share. -/
structure TextContext (α : Type) where
  /-- The colour of runs without one. -/
  fill : Option Color
  opacity : α
  lineSpacing : α
  shadow : Option (Shadow α)
  /-- The parameter that stands for the colour. -/
  colorParam : Option String

/-- Values of style keys in the order of the keys. -/
abbrev TextStyle := List (StyleKey × String)

namespace TextStyle

def find? (style : TextStyle) (key : StyleKey) : Option String :=
  (List.find? (fun entry => entry.1 = key) style).map Prod.snd

/-- The entries that a baseline lacks or has otherwise. -/
def delta (style baseline : TextStyle) : TextStyle :=
  style.filter (fun (key, value) => baseline.find? key ≠ some value)

def write (style : TextStyle) : String :=
  "TextStyle(" ++ String.join (style.map (fun (key, value) => key.name ++ ": " ++ value ++ ", ")) ++ ")"

/-- No spacing is left out; a spacing that only rounds to zero is not. -/
def letterSpacing? (run : TextRun α) : Option String :=
  let spacing := run.charSpacing / 1000.0 * run.size
  if spacing == 0.0 then none else some (Scalar.fixed spacing 6)

/-- The line height as a multiple of the font size, rounded down to two places.
Automatic spacing has none. -/
def lineHeight? (lineSpacing size : α) : Option String :=
  if lineSpacing == 0.0 || size == 0.0 then none
  else some (Scalar.fixed (Scalar.floor (lineSpacing / size * 100.0) / 100.0) 2)

def decoration? (run : TextRun α) : Option String :=
  match run.isUnderlined, run.isStruck with
  | true, true =>
      some "TextDecoration.combine([TextDecoration.underline, TextDecoration.lineThrough])"
  | true, false => some "TextDecoration.underline"
  | false, true => some "TextDecoration.lineThrough"
  | false, false => none

/-- The value of a key for a run. -/
def value? (run : TextRun α) (context : TextContext α) (settings : Settings) :
    StyleKey → Option String
  | .fontFamily => some (Dart.stringLiteral (settings.font run.family))
  | .fontSize => some (Scalar.fixed run.size 6)
  | .color =>
      match context.colorParam with
      | some name => some name
      | none =>
          (run.fill.or context.fill).map (fun color => Dart.colorLiteral color context.opacity)
  | .letterSpacing => letterSpacing? run
  | .fontStyle => if FontStyle.isItalic run.style then some "FontStyle.italic" else none
  | .fontWeight => (FontStyle.weight? run.style).map (fun weight => "FontWeight." ++ weight)
  | .decoration => decoration? run
  | .height => lineHeight? context.lineSpacing run.size
  | .shadows =>
      (context.shadow.filter (·.isVisible)).map
        (fun shadow => "[" ++ Paint.textShadow shadow context.opacity ++ ", ]")

def ofRun (run : TextRun α) (context : TextContext α) (settings : Settings) (scope : StyleScope) :
    TextStyle :=
  (StyleKey.all.filter scope.includes).filterMap
    (fun key => (value? run context settings key).map (fun value => (key, value)))

end TextStyle

end DesignExport
