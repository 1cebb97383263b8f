import DesignExport.Geometry.Rect
import DesignExport.Proofs.Number.Rational
import DesignExport.Proofs.Shape.Placement
import DesignExport.Shape.Markup
import Mathlib.Order.Bounds.Basic
set_option autoImplicit false

/-! The view box of a shape unit in exact arithmetic. It is the smallest box around the
members, at least one unit on each axis, and whatever the unit draws lies in it. Rectangles are
ordered by what lies within what, and the union of some of them is their least upper bound. -/

namespace DesignExport

namespace Rect

/-- The points of a rectangle, with its sides. -/
structure Holds (rect : Rect Rat) (point : Point Rat) : Prop where
  left : rect.x ≤ point.x
  right : point.x ≤ rect.right
  top : rect.y ≤ point.y
  bottom : point.y ≤ rect.bottom

/-- One rectangle lies within another one. -/
instance : LE (Rect Rat) where
  le inner outer :=
    outer.x ≤ inner.x ∧ outer.y ≤ inner.y ∧ inner.right ≤ outer.right ∧ inner.bottom ≤ outer.bottom

theorem le_iff {inner outer : Rect Rat} : inner ≤ outer ↔
    outer.x ≤ inner.x ∧ outer.y ≤ inner.y ∧ inner.right ≤ outer.right ∧ inner.bottom ≤ outer.bottom :=
  Iff.rfl

instance : PartialOrder (Rect Rat) where
  le_refl rect := ⟨le_rfl, le_rfl, le_rfl, le_rfl⟩
  le_trans first second third lower upper := by
    rw [le_iff] at *
    refine ⟨?_, ?_, ?_, ?_⟩ <;> linarith
  le_antisymm first second lower upper := by
    simp only [le_iff, Rect.right, Rect.bottom] at lower upper
    obtain ⟨x, y, width, height⟩ := first
    obtain ⟨otherX, otherY, otherWidth, otherHeight⟩ := second
    simp only at lower upper
    rw [Rect.mk.injEq]
    refine ⟨?_, ?_, ?_, ?_⟩ <;> linarith

theorem Holds.mono {inner outer : Rect Rat} {point : Point Rat} (holds : inner.Holds point)
    (within : inner ≤ outer) : outer.Holds point where
  left := within.1.trans holds.left
  right := holds.right.trans within.2.2.1
  top := within.2.1.trans holds.top
  bottom := holds.bottom.trans within.2.2.2

/-! ### Unions -/

theorem union_right (first second : Rect Rat) :
    (first.union second).right = max first.right second.right := by
  simp [union, right, Scalar.greatest_eq_max]

theorem union_bottom (first second : Rect Rat) :
    (first.union second).bottom = max first.bottom second.bottom := by
  simp [union, bottom, Scalar.greatest_eq_max]

theorem union_le_iff {first second outer : Rect Rat} :
    first.union second ≤ outer ↔ first ≤ outer ∧ second ≤ outer := by
  have left : (first.union second).x = min first.x second.x := Scalar.least_eq_min _ _
  have top : (first.union second).y = min first.y second.y := Scalar.least_eq_min _ _
  simp only [le_iff, union_right, union_bottom, left, top, le_min_iff, max_le_iff]
  tauto

theorem foldl_union_le_iff {first outer : Rect Rat} {rest : List (Rect Rat)} :
    rest.foldl union first ≤ outer ↔ ∀ rect ∈ first :: rest, rect ≤ outer := by
  induction rest generalizing first with
  | nil => simp
  | cons second rest ih =>
      rw [List.foldl_cons, ih]
      simp only [List.forall_mem_cons, union_le_iff, and_assoc]

theorem isLUB_of_unionAll? {rects : List (Rect Rat)} {hull : Rect Rat}
    (found : unionAll? rects = some hull) : IsLUB {rect | rect ∈ rects} hull := by
  cases rects with
  | nil => cases found
  | cons first rest =>
      rw [← Option.some.inj found]
      constructor
      · exact foldl_union_le_iff.mp le_rfl
      · intro outer bounds
        exact foldl_union_le_iff.mpr bounds

theorem exists_unionAll? {rects : List (Rect Rat)} (listed : rects ≠ []) :
    ∃ hull, unionAll? rects = some hull := by
  cases rects with
  | nil => exact absurd rfl listed
  | cons first rest => exact ⟨_, rfl⟩

/-! ### Images under maps -/

/-- A multiple of a number between two others is at least that of one of the two. -/
theorem mul_between (factor : Rat) {low value high : Rat} (above : low ≤ value) (below : value ≤ high) :
    (factor * low ≤ factor * value ∧ factor * value ≤ factor * high) ∨
      (factor * high ≤ factor * value ∧ factor * value ≤ factor * low) := by
  by_cases negative : factor ≤ 0
  · exact Or.inr ⟨mul_le_mul_of_nonpos_left below negative, mul_le_mul_of_nonpos_left above negative⟩
  · have positive : 0 ≤ factor := (not_le.mp negative).le
    exact Or.inl ⟨mul_le_mul_of_nonneg_left above positive, mul_le_mul_of_nonneg_left below positive⟩

/-- A sum of multiples lies between the least and the greatest of its values at the corners. -/
theorem sum_between (first second offset : Rat) {left x right top y bottom : Rat}
    (horizontal : left ≤ x ∧ x ≤ right) (vertical : top ≤ y ∧ y ≤ bottom) :
    let sum (x y : Rat) := first * x + second * y + offset
    min (min (min (sum left top) (sum right top)) (sum left bottom)) (sum right bottom) ≤ sum x y ∧
      sum x y ≤ max (max (max (sum left top) (sum right top)) (sum left bottom)) (sum right bottom) := by
  intro sum
  simp only [min_le_iff, le_max_iff, sum]
  -- The signs of the two factors say which corners bound the sum from below and from above.
  rcases mul_between first horizontal.1 horizontal.2 with ⟨lower, upper⟩ | ⟨lower, upper⟩ <;>
  rcases mul_between second vertical.1 vertical.2 with ⟨low, high⟩ | ⟨low, high⟩
  · exact ⟨Or.inl (Or.inl (Or.inl (by linarith))), Or.inr (by linarith)⟩
  · exact ⟨Or.inl (Or.inr (by linarith)), Or.inl (Or.inl (Or.inr (by linarith)))⟩
  · exact ⟨Or.inl (Or.inl (Or.inr (by linarith))), Or.inl (Or.inr (by linarith))⟩
  · exact ⟨Or.inr (by linarith), Or.inl (Or.inl (Or.inl (by linarith)))⟩

theorem transformed_sides (rect : Rect Rat) (map : Affine Rat) :
    let image (x y : Rat) := map.apply ⟨x, y⟩
    let box := rect.transformed map
    box.x = min (min (min (image rect.x rect.y).x (image rect.right rect.y).x)
        (image rect.x rect.bottom).x) (image rect.right rect.bottom).x ∧
      box.right = max (max (max (image rect.x rect.y).x (image rect.right rect.y).x)
        (image rect.x rect.bottom).x) (image rect.right rect.bottom).x ∧
      box.y = min (min (min (image rect.x rect.y).y (image rect.right rect.y).y)
        (image rect.x rect.bottom).y) (image rect.right rect.bottom).y ∧
      box.bottom = max (max (max (image rect.x rect.y).y (image rect.right rect.y).y)
        (image rect.x rect.bottom).y) (image rect.right rect.bottom).y := by
  intro image box
  refine ⟨?_, ?_, ?_, ?_⟩ <;>
    simp [box, image, transformed, corners, Rect.right, Rect.bottom, Scalar.least_eq_min, Scalar.greatest_eq_max]

/-- The image of a point lies in the bounding box of the images of the corners. -/
theorem Holds.transformed {rect : Rect Rat} {point : Point Rat} (holds : rect.Holds point)
    (map : Affine Rat) : (rect.transformed map).Holds (map.apply point) := by
  obtain ⟨left, right, top, bottom⟩ := transformed_sides rect map
  have horizontal := sum_between map.a map.c map.e ⟨holds.left, holds.right⟩ ⟨holds.top, holds.bottom⟩
  have vertical := sum_between map.b map.d map.f ⟨holds.left, holds.right⟩ ⟨holds.top, holds.bottom⟩
  constructor
  · rw [left]; exact horizontal.1
  · rw [right]; exact horizontal.2
  · rw [top]; exact vertical.1
  · rw [bottom]; exact vertical.2

end Rect

/-! ### Units -/

namespace ShapeUnit

section Arises

variable {α : Type} [Scalar α]

/-- Units as they are used. Pushing, absorbing and framing all make fresh ones, and what is
remembered later is what was computed from the members. -/
inductive Arises : ShapeUnit α → Prop where
  | fresh (frame : Option (LayerInfo α)) (members : List (ShapeMember α)) : Arises (fresh frame members)
  | withBox {unit : ShapeUnit α} (arises : Arises unit) : Arises unit.withBox
  | markup {unit : ShapeUnit α} (opacityOf : Markup.OpacityOf α) (arises : Arises unit) :
      Arises (unit.markup opacityOf).2.1
  | id {unit : ShapeUnit α} (opacityOf : Markup.OpacityOf α) (arises : Arises unit) :
      Arises (unit.id opacityOf).2.1

/-- A box that is remembered is the box around the members. -/
def KnowsBox (unit : ShapeUnit α) : Prop :=
  unit.viewBox = boxAround (memberBounds unit.members)

theorem KnowsBox.withBox {unit : ShapeUnit α} (knows : unit.KnowsBox) : unit.withBox.KnowsBox :=
  knows

theorem KnowsBox.markup {unit : ShapeUnit α} (knows : unit.KnowsBox) (opacityOf : Markup.OpacityOf α) :
    (unit.markup opacityOf).2.1.KnowsBox := by
  unfold ShapeUnit.markup
  split
  · exact knows
  · exact knows

theorem Arises.knowsBox {unit : ShapeUnit α} (arises : unit.Arises) : unit.KnowsBox := by
  induction arises with
  | fresh frame members => rfl
  | withBox _ ih => exact ih.withBox
  | markup opacityOf _ ih => exact ih.markup opacityOf
  | id opacityOf _ ih =>
      unfold ShapeUnit.id
      split
      · exact ih
      · exact ih.markup opacityOf

end Arises

end ShapeUnit

/-- The same members in another order, at any depth. -/
inductive Reordered {α : Type} : List (ShapeMember α) → List (ShapeMember α) → Prop where
  | perm {first second : List (ShapeMember α)} (same : first.Perm second) : Reordered first second
  | nested (frame : LayerInfo α) {inner other : List (ShapeMember α)} (rest : List (ShapeMember α))
      (below : Reordered inner other) :
      Reordered (.nested frame inner :: rest) (.nested frame other :: rest)
  | trans {first second third : List (ShapeMember α)} (front : Reordered first second)
      (back : Reordered second third) : Reordered first third

namespace Placement

/-- Where a point of the leaf is drawn: under its own transform, then under the frames. -/
def image {α : Type} [Scalar α] (placement : Placement α) (point : Point α) : Point α :=
  placement.transforms.foldl (fun point map => map.apply point) point

theorem image_within {α : Type} [Scalar α] (frame : LayerInfo α) (placement : Placement α) (point : Point α) :
    (placement.within frame).image point = frame.transform.apply (placement.image point) := by
  simp [image, transforms, within, List.foldl_append]

end Placement

theorem memberBounds_eq_map (members : List (ShapeMember Rat)) :
    memberBounds members = members.map (·.bounds) := by
  induction members with
  | nil => rw [memberBounds, List.map_nil]
  | cons member rest ih => rw [memberBounds, List.map_cons, ih]

/-! ### Boxes -/

theorem Rect.atLeastOne_eq (rect : Rect Rat) :
    rect.atLeastOne = ⟨rect.x, rect.y, max 1 rect.width, max 1 rect.height⟩ := by
  have one : (1.0 : Rat) = 1 := by decide +kernel
  rw [Rect.atLeastOne, Scalar.atLeast_eq_max, Scalar.atLeast_eq_max, one]

theorem Rect.le_atLeastOne (rect : Rect Rat) : rect ≤ rect.atLeastOne := by
  rw [Rect.atLeastOne_eq]
  simp [Rect.le_iff, Rect.right, Rect.bottom]

theorem le_boxAround {bounds : List (Rect Rat)} {rect : Rect Rat} (listed : rect ∈ bounds) :
    rect ≤ boxAround bounds := by
  obtain ⟨hull, found⟩ := Rect.exists_unionAll? (List.ne_nil_of_mem listed)
  have around : boxAround bounds = hull.atLeastOne := by rw [boxAround, found, Option.getD_some]
  rw [around]
  exact ((Rect.isLUB_of_unionAll? found).1 listed).trans hull.le_atLeastOne

theorem boxAround_perm {first second : List (Rect Rat)} (same : first.Perm second) :
    boxAround first = boxAround second := by
  by_cases empty : first = []
  · subst empty
    rw [same.symm.eq_nil]
  · have other : second ≠ [] := fun none => empty (none ▸ same).eq_nil
    obtain ⟨hull, found⟩ := Rect.exists_unionAll? empty
    obtain ⟨box, also⟩ := Rect.exists_unionAll? other
    have sets : {rect | rect ∈ second} = {rect | rect ∈ first} := Set.ext fun _ => same.mem_iff.symm
    have least := Rect.isLUB_of_unionAll? also
    rw [sets] at least
    rw [boxAround, boxAround, found, also, (Rect.isLUB_of_unionAll? found).unique least]

theorem Reordered.memberBounds_perm {first second : List (ShapeMember Rat)}
    (reordered : Reordered first second) : (memberBounds first).Perm (memberBounds second) := by
  induction reordered with
  | perm same =>
      rw [memberBounds_eq_map, memberBounds_eq_map]
      exact same.map _
  | nested frame rest _ ih =>
      simp only [memberBounds, ShapeMember.bounds, boxAround_perm ih]
      exact List.Perm.refl _
  | trans _ _ ihFront ihBack => exact ihFront.trans ihBack

/-! ### What is drawn lies in the box -/

mutual

theorem ShapeMember.bounds_holds : ∀ (member : ShapeMember Rat), ∀ placement ∈ member.placements,
    ∀ point, placement.leaf.localBounds.Holds point → member.bounds.Holds (placement.image point)
  | .primitive layer, placement, drawn, point, holds => by
      rw [ShapeMember.placements, List.mem_singleton] at drawn
      subst drawn
      exact holds.transformed layer.transform
  | .nested frame members, placement, drawn, point, holds => by
      rw [ShapeMember.placements] at drawn
      obtain ⟨inner, found, same⟩ := List.mem_map.mp drawn
      subst same
      obtain ⟨bounds, listed, inside⟩ := memberBounds_holds members inner found point holds
      have boxed : (boxAround (memberBounds members)).Holds (inner.image point) :=
        inside.mono (le_boxAround listed)
      rw [Placement.image_within, ShapeMember.bounds]
      exact boxed.transformed frame.transform

theorem memberBounds_holds : ∀ (members : List (ShapeMember Rat)), ∀ placement ∈ memberPlacements members,
    ∀ point, placement.leaf.localBounds.Holds point →
      ∃ bounds ∈ memberBounds members, bounds.Holds (placement.image point)
  | [], placement, absent, _, _ => by
      rw [memberPlacements] at absent
      exact absurd absent List.not_mem_nil
  | member :: rest, placement, drawn, point, holds => by
      rw [memberPlacements, List.mem_append] at drawn
      rw [memberBounds]
      rcases drawn with first | later
      · exact ⟨_, List.mem_cons_self, member.bounds_holds placement first point holds⟩
      · obtain ⟨bounds, listed, inside⟩ := memberBounds_holds rest placement later point holds
        exact ⟨bounds, List.mem_cons_of_mem _ listed, inside⟩

end

namespace ShapeUnit

/-- The view box is the smallest box around the members with its right and lower sides moved
as far as one unit on each axis needs. The order of members does not matter, and every point
of a primitive is drawn in the box. -/
theorem viewBox_bounds {unit : ShapeUnit Rat} (arises : unit.Arises) (drawn : unit.members ≠ []) :
    (∃ hull : Rect Rat, IsLUB {bounds | ∃ member ∈ unit.members, member.bounds = bounds} hull ∧
        unit.viewBox = ⟨hull.x, hull.y, max 1 hull.width, max 1 hull.height⟩) ∧
      (∀ other : ShapeUnit Rat, other.Arises → Reordered unit.members other.members →
        other.viewBox = unit.viewBox) ∧
      ∀ placement ∈ memberPlacements unit.members, ∀ point,
        placement.leaf.localBounds.Holds point → unit.viewBox.Holds (placement.image point) := by
  have computed : unit.viewBox = boxAround (memberBounds unit.members) := arises.knowsBox
  have listed : memberBounds unit.members ≠ [] := by
    rw [memberBounds_eq_map]
    exact fun empty => drawn (List.map_eq_nil_iff.mp empty)
  have each : {rect | rect ∈ memberBounds unit.members} =
      {bounds | ∃ member ∈ unit.members, member.bounds = bounds} := by
    ext rect
    rw [memberBounds_eq_map]
    exact List.mem_map
  obtain ⟨hull, found⟩ := Rect.exists_unionAll? listed
  refine ⟨⟨hull, each ▸ Rect.isLUB_of_unionAll? found, ?_⟩, ?_, ?_⟩
  · rw [computed, boxAround, found, Option.getD_some, Rect.atLeastOne_eq]
  · intro other also reordered
    have box : other.viewBox = boxAround (memberBounds other.members) := also.knowsBox
    rw [box, computed, boxAround_perm reordered.memberBounds_perm]
  · intro placement inside point holds
    obtain ⟨bounds, member, within⟩ := memberBounds_holds unit.members placement inside point holds
    rw [computed]
    exact within.mono (le_boxAround member)

def levelLine : LayerInfo Rat :=
  { LayerInfo.usual "line" "Line" (.line "M0 0L50 0") with
    localBounds := ⟨0, 0, 50, 0⟩
    transform := Affine.shift 10 10 }

/-- A group that is turned by a quarter. -/
def turnedFrame : LayerInfo Rat :=
  { LayerInfo.usual "turned" "Turned" .group with transform := ⟨0, 1, -1, 0, 0, 0⟩ }

def turnedUnit : ShapeUnit Rat :=
  (ofPrimitive levelLine).absorb (framed turnedFrame (ofPrimitive levelLine))

/-- The end of the line in the turned group is drawn in the box, whichever line comes first. -/
theorem viewBox_bounds_turnedUnit :
    let turnedFirst := fresh none turnedUnit.members.reverse
    turnedFirst.viewBox = turnedUnit.viewBox ∧
      turnedUnit.viewBox.x = -11 ∧ turnedUnit.viewBox.height = 50 ∧
      turnedUnit.viewBox.Holds ((Placement.mk levelLine [turnedFrame]).image ⟨50, 0⟩) := by
  have arises : turnedUnit.Arises := Arises.fresh _ _
  obtain ⟨_, order, points⟩ := viewBox_bounds arises (List.cons_ne_nil _ _)
  refine ⟨?_, by decide +kernel, by decide +kernel, ?_⟩
  · exact order _ (Arises.fresh _ _) (.perm (List.reverse_perm _).symm)
  · refine points _ (List.mem_cons_of_mem _ List.mem_cons_self) ⟨50, 0⟩ ⟨?_, ?_, ?_, ?_⟩ <;> decide +kernel

end ShapeUnit

end DesignExport
