import DesignExport.Geometry.Affine
set_option autoImplicit false

/-! Rectangles with sides along the axes, in design units. -/

namespace DesignExport

structure Rect (α : Type) where
  x : α
  y : α
  width : α
  height : α

namespace Rect

variable {α : Type} [Scalar α]

def zero : Rect α :=
  ⟨0.0, 0.0, 0.0, 0.0⟩

instance : Inhabited (Rect α) := ⟨zero⟩

def right (rect : Rect α) : α :=
  rect.x + rect.width

def bottom (rect : Rect α) : α :=
  rect.y + rect.height

def center (rect : Rect α) : Point α :=
  ⟨rect.x + rect.width / 2.0, rect.y + rect.height / 2.0⟩

/-- The smallest rectangle that contains both. -/
def union (first second : Rect α) : Rect α :=
  let x := Scalar.least first.x second.x
  let y := Scalar.least first.y second.y
  ⟨x, y, Scalar.greatest first.right second.right - x,
    Scalar.greatest first.bottom second.bottom - y⟩

/-- The smallest rectangle that contains all of a list; none for no rectangles. -/
def unionAll? : List (Rect α) → Option (Rect α)
  | [] => none
  | first :: rest => some (rest.foldl union first)

def translate (rect : Rect α) (dx dy : α) : Rect α :=
  ⟨rect.x + dx, rect.y + dy, rect.width, rect.height⟩

def corners (rect : Rect α) : Point α × List (Point α) :=
  (⟨rect.x, rect.y⟩, [⟨rect.right, rect.y⟩, ⟨rect.x, rect.bottom⟩, ⟨rect.right, rect.bottom⟩])

/-- The bounding box of the image under a map. -/
def transformed (rect : Rect α) (map : Affine α) : Rect α :=
  let (first, others) := rect.corners
  let start := map.apply first
  let images := others.map map.apply
  let low : Point α := images.foldl
    (fun low point => ⟨Scalar.least low.x point.x, Scalar.least low.y point.y⟩) start
  let high : Point α := images.foldl
    (fun high point => ⟨Scalar.greatest high.x point.x, Scalar.greatest high.y point.y⟩) start
  ⟨low.x, low.y, high.x - low.x, high.y - low.y⟩

end Rect

end DesignExport
