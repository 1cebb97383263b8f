import DesignExport.Color
set_option autoImplicit false

/-! The content of text layers: one text and the runs of characters that share
a style. -/

namespace DesignExport

variable {α : Type} [Scalar α]

inductive TextAlign where
  | left
  | center
  | right
deriving DecidableEq

/-- How the box of a text grows. Point text grows with its content and never wraps. -/
inductive TextBox where
  | point
  | fixedHeight
  | autoHeight
deriving DecidableEq

inductive TextScript where
  | none
  | superscript
  | subscript
deriving DecidableEq

inductive TextTransform where
  | none
  | uppercase
  | lowercase
  | titleCase
deriving DecidableEq

/-- Characters of one style. -/
structure TextRun (α : Type) where
  length : Nat
  family : String
  /-- The name of the style, such as `Bold Italic`. -/
  style : String
  size : α
  fill : Option Color
  /-- Tracking in thousandths of the font size. -/
  charSpacing : α
  isUnderlined : Bool
  isStruck : Bool
  script : TextScript
  transform : TextTransform
  paragraphSpacing : α

def TextRun.usual : TextRun α where
  length := 0
  family := "Helvetica Neue"
  style := "Regular"
  size := 14.0
  fill := none
  charSpacing := 0.0
  isUnderlined := false
  isStruck := false
  script := .none
  transform := .none
  paragraphSpacing := 0.0

structure TextBlock (α : Type) where
  text : String
  /-- In order; the last run covers the characters that remain. -/
  runs : List (TextRun α)
  align : TextAlign
  box : TextBox
  /-- Text that overflows the area of its box. -/
  isClipped : Bool
  /-- Zero stands for automatic spacing. -/
  lineSpacing : α

def TextBlock.empty : TextBlock α :=
  ⟨"", [], .left, .point, false, 0.0⟩

end DesignExport
