import DesignExport.Layout.Insets
import DesignExport.Geometry.Rect
set_option autoImplicit false

/-! Alignment of a box in its parent: at the start, in the middle or at the end
of each axis, or at a fraction of the free space. -/

namespace DesignExport

variable {α : Type} [Scalar α]

inductive Anchor where
  | start
  | middle
  | finish
deriving DecidableEq

/-- A fraction of -1 is the start of an axis, and 1 its end. -/
inductive Alignment (α : Type) where
  | named (vertical horizontal : Anchor)
  | fractional (x y : α)

def Anchor.find? (offset free : α) : Option Anchor :=
  if almostEqual offset 0.0 tolerance then some .start
  else if almostEqual offset (free / 2.0) tolerance then some .middle
  else if almostEqual offset free tolerance then some .finish
  else none

/-- A pinned edge wants the anchor on its side. -/
def Anchor.honours (anchor : Option Anchor) (pinsStart pinsEnd : Bool) : Bool :=
  (!pinsStart || anchor = some .start) && (!pinsEnd || anchor = some .finish)

/-- Free space below the smallest difference from one counts as none. -/
def alignmentFraction (offset free : α) : α :=
  if Scalar.abs free < 2.220446049250313e-16 then 0.5 else offset / free

namespace Alignment

/-- The alignment of `bounds` in a parent. `none`: a pinned edge contradicts it. -/
def deduce? (bounds parent : Rect α) (constraints : ResizeConstraints) : Option (Alignment α) :=
  let freeWidth := parent.width - bounds.width
  let freeHeight := parent.height - bounds.height
  let vertical := Anchor.find? bounds.y freeHeight
  let horizontal := Anchor.find? bounds.x freeWidth
  if Anchor.honours vertical constraints.top constraints.bottom &&
      Anchor.honours horizontal constraints.left constraints.right then
    match vertical, horizontal with
    | some vertical, some horizontal => some (.named vertical horizontal)
    | _, _ =>
        some (.fractional (alignmentFraction bounds.x freeWidth * 2.0 - 1.0)
          (alignmentFraction bounds.y freeHeight * 2.0 - 1.0))
  else none

def isCenter : Alignment α → Bool
  | .named .middle .middle => true
  | _ => false

def anchorName : Anchor → Anchor → String
  | .start, .start => "topLeft"
  | .start, .middle => "topCenter"
  | .start, .finish => "topRight"
  | .middle, .start => "centerLeft"
  | .middle, .middle => "center"
  | .middle, .finish => "centerRight"
  | .finish, .start => "bottomLeft"
  | .finish, .middle => "bottomCenter"
  | .finish, .finish => "bottomRight"

def write : Alignment α → String
  | .named vertical horizontal => "Alignment." ++ anchorName vertical horizontal
  | .fractional x y => "Alignment(" ++ Scalar.fixed x 3 ++ ", " ++ Scalar.fixed y 3 ++ ")"

end Alignment

end DesignExport
