import DesignExport.Number.Scalar
set_option autoImplicit false

/-! How a layer asks to be placed in its parent, and how it places its own
children. -/

namespace DesignExport

variable {α : Type} [Scalar α]

/-- Which edges and which dimensions keep their distance or size when the
parent is resized. -/
structure ResizeConstraints where
  left : Bool := false
  right : Bool := false
  top : Bool := false
  bottom : Bool := false
  width : Bool := false
  height : Bool := false
deriving DecidableEq

inductive GroupArrangement where
  | none
  | stack
  | padding
deriving DecidableEq

inductive Orientation where
  | vertical
  | horizontal
deriving DecidableEq

/-- One gap for all neighbours, or a gap for each pair of neighbours. -/
inductive Spacings (α : Type) where
  | uniform (gap : α)
  | perGap (gaps : List α)

structure Stack (α : Type) where
  orientation : Orientation
  spacings : Spacings α

structure EdgeValues (α : Type) where
  top : α
  right : α
  bottom : α
  left : α

inductive PaddingValues (α : Type) where
  | uniform (value : α)
  | edges (values : EdgeValues α)

structure PaddingRecord (α : Type) where
  values : Option (PaddingValues α)
  /-- The child that is drawn as the background. -/
  background : Option String

structure Arrangement (α : Type) where
  /-- Present for layers that take part in responsive resizing. -/
  constraints : Option ResizeConstraints
  kind : GroupArrangement
  stack : Option (Stack α)
  padding : Option (PaddingRecord α)

namespace Arrangement

def plain : Arrangement α :=
  ⟨none, .none, none, none⟩

/-- The stack that the children are laid out in. -/
def activeStack? (arrangement : Arrangement α) : Option (Stack α) :=
  if arrangement.kind = .stack then arrangement.stack else none

def isStack (arrangement : Arrangement α) : Bool :=
  arrangement.activeStack?.isSome

def background? (arrangement : Arrangement α) : Option String :=
  arrangement.padding.bind (·.background)

end Arrangement

end DesignExport
