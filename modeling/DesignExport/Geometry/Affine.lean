import DesignExport.Number.Scalar
set_option autoImplicit false

/-! Points and affine maps of the plane. -/

namespace DesignExport

structure Point (α : Type) where
  x : α
  y : α
deriving Inhabited

/-- Sends `(x, y)` to `(a * x + c * y + e, b * x + d * y + f)`. -/
structure Affine (α : Type) where
  a : α
  b : α
  c : α
  d : α
  e : α
  f : α

namespace Affine

variable {α : Type} [Scalar α]

def identity : Affine α :=
  ⟨1.0, 0.0, 0.0, 1.0, 0.0, 0.0⟩

def shift (x y : α) : Affine α :=
  ⟨1.0, 0.0, 0.0, 1.0, x, y⟩

instance : Inhabited (Affine α) := ⟨identity⟩

def toList (map : Affine α) : List α :=
  [map.a, map.b, map.c, map.d, map.e, map.f]

def ofList? : List α → Option (Affine α)
  | [a, b, c, d, e, f] => some ⟨a, b, c, d, e, f⟩
  | _ => none

/-- The linear part is the identity. -/
def isShift (map : Affine α) : Bool :=
  map.a == 1.0 && map.b == 0.0 && map.c == 0.0 && map.d == 1.0

def isIdentity (map : Affine α) : Bool :=
  map.isShift && map.e == 0.0 && map.f == 0.0

/-- The image of a vector under the linear part. -/
def linear (map : Affine α) (vector : Point α) : Point α :=
  ⟨map.a * vector.x + map.c * vector.y, map.b * vector.x + map.d * vector.y⟩

def apply (map : Affine α) (point : Point α) : Point α :=
  let image := map.linear point
  ⟨image.x + map.e, image.y + map.f⟩

/-- First `inner`, then `outer`. -/
def after (outer inner : Affine α) : Affine α :=
  let first := outer.linear ⟨inner.a, inner.b⟩
  let second := outer.linear ⟨inner.c, inner.d⟩
  let offset := outer.apply ⟨inner.e, inner.f⟩
  ⟨first.x, first.y, second.x, second.y, offset.x, offset.y⟩

/-- The inverse map; a map that flattens the plane has none, and the division
by its determinant shows in the result. -/
def inverse (map : Affine α) : Affine α :=
  let scale := 1.0 / (map.a * map.d - map.b * map.c)
  let flat : Affine α := ⟨map.d * scale, map.b * -scale, map.c * -scale, map.a * scale, 0.0, 0.0⟩
  let offset := flat.linear ⟨map.e, map.f⟩
  { flat with e := -offset.x, f := -offset.y }

end Affine

end DesignExport
