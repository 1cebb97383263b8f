import DesignExport.Document.Arrangement
import DesignExport.Dart.Literal
set_option autoImplicit false

/-! Insets on the four sides of a box, and the gaps between the children of a
stack. -/

namespace DesignExport

variable {α : Type} [Scalar α]

/-- Measures of the design that differ by less than this count as equal. -/
def tolerance : α := 0.5

def almostEqual (first second within : α) : Bool :=
  Scalar.abs (first - second) < within

structure EdgeInsets (α : Type) where
  top : α
  right : α
  bottom : α
  left : α

/-- The constructors that insets can be written with. -/
inductive InsetsForm (α : Type) where
  | all (value : α)
  | symmetric (horizontal vertical : α)
  | sides (left top right bottom : α)

/-- The insets that a constructor makes. -/
def InsetsForm.insets : InsetsForm α → EdgeInsets α
  | .all value => ⟨value, value, value, value⟩
  | .symmetric horizontal vertical => ⟨vertical, horizontal, vertical, horizontal⟩
  | .sides left top right bottom => ⟨top, right, bottom, left⟩

def InsetsForm.write (unit : String) : InsetsForm α → String
  | .all value => "EdgeInsets.all(" ++ Dart.dimension value unit ++ ")"
  | .symmetric horizontal vertical =>
      "EdgeInsets.symmetric(horizontal: " ++ Dart.dimension horizontal unit ++
        ", vertical: " ++ Dart.dimension vertical unit ++ ")"
  | .sides left top right bottom =>
      "EdgeInsets.fromLTRB(" ++ Dart.dimension left unit ++ ", " ++ Dart.dimension top unit ++
        ", " ++ Dart.dimension right unit ++ ", " ++ Dart.dimension bottom unit ++ ")"

namespace EdgeInsets

def uniform (value : α) : EdgeInsets α :=
  ⟨value, value, value, value⟩

def isZero (insets : EdgeInsets α) : Bool :=
  insets.top == 0.0 && insets.right == 0.0 && insets.bottom == 0.0 && insets.left == 0.0

/-- Opposite sides match within the tolerance. -/
def isSymmetric (insets : EdgeInsets α) : Bool :=
  almostEqual insets.left insets.right tolerance && almostEqual insets.top insets.bottom tolerance

def isUniform (insets : EdgeInsets α) : Bool :=
  insets.isSymmetric && almostEqual insets.left insets.top tolerance

/-- The shortest constructor that makes these insets within the tolerance. -/
def form (insets : EdgeInsets α) : InsetsForm α :=
  if insets.isUniform then .all insets.left
  else if insets.isSymmetric then .symmetric insets.left insets.top
  else .sides insets.left insets.top insets.right insets.bottom

def write (insets : EdgeInsets α) (unit : String) : String :=
  insets.form.write unit

end EdgeInsets

def PaddingValues.insets : PaddingValues α → EdgeInsets α
  | .uniform value => .uniform value
  | .edges values => ⟨values.top, values.right, values.bottom, values.left⟩

/-- Padding that is zero on every side counts as none. -/
def insetsOf? (values : Option (PaddingValues α)) : Option (EdgeInsets α) :=
  (values.map PaddingValues.insets).filter (fun insets => !insets.isZero)

/-- The padding inside a layer that arranges its children. -/
def Arrangement.insets? (arrangement : Arrangement α) : Option (EdgeInsets α) :=
  if arrangement.kind = .none then none
  else insetsOf? (arrangement.padding.bind (·.values))

namespace Spacings

/-- The gap at a place. The last of several gaps stands for the missing ones. -/
def gapAt : Spacings α → Nat → α
  | .uniform gap, _ => gap
  | .perGap gaps, place => (gaps[place]?.or gaps.getLast?).getD 0.0

/-- As many gaps as asked for, none of them negative. -/
def gaps (spacings : Spacings α) (count : Nat) : List α :=
  (List.range count).map (fun place => Scalar.atLeast 0.0 (spacings.gapAt place))

end Spacings

/-- Gaps above this bound are trimmed once in a stack. -/
def trimBound : α := 20.0

/-- A trimmed gap makes up for the line height that text boxes of the design
lack. -/
def trimmed? (gap : α) : Option α :=
  if trimBound < gap then some (Scalar.roundTo (gap - 3.0) 1) else none

end DesignExport
