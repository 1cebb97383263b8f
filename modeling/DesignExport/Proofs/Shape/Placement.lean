import DesignExport.Shape.Unit
import Mathlib.Data.List.Forall2
set_option autoImplicit false

/-! Where the primitives of a shape unit are drawn. A primitive is drawn under its
own transform, then under the frames of the units around it, from the inside out. -/

namespace DesignExport

variable {α : Type}

/-- A layer that is drawn, and the layers whose transforms lead from its parent to
the space that a unit or a tree is drawn in. -/
structure Placement (α : Type) where
  leaf : LayerInfo α
  /-- From the inside out. -/
  frames : List (LayerInfo α)

namespace Placement

def alone (layer : LayerInfo α) : Placement α :=
  ⟨layer, []⟩

def within (frame : LayerInfo α) (placement : Placement α) : Placement α :=
  { placement with frames := placement.frames ++ [frame] }

/-- The maps that the leaf is drawn under, its own first. -/
def transforms (placement : Placement α) : List (Affine α) :=
  (placement.leaf :: placement.frames).map (·.transform)

/-- The same leaf under the same frames, perhaps with others in between. -/
def Extends (before after : Placement α) : Prop :=
  before.leaf = after.leaf ∧ List.Sublist before.frames after.frames

theorem Extends.refl (placement : Placement α) : Extends placement placement :=
  ⟨rfl, List.Sublist.refl _⟩

theorem Extends.trans {first second third : Placement α} (lower : Extends first second)
    (upper : Extends second third) : Extends first third :=
  ⟨lower.1.trans upper.1, lower.2.trans upper.2⟩

theorem extends_within (frame : LayerInfo α) (placement : Placement α) :
    Extends placement (placement.within frame) :=
  ⟨rfl, List.sublist_append_left _ _⟩

theorem Extends.within {before after : Placement α} (extended : Extends before after)
    (frame : LayerInfo α) : Extends (before.within frame) (after.within frame) :=
  ⟨extended.1, extended.2.append_right [frame]⟩

/-- As many frames as before are the same frames. -/
theorem Extends.eq_of_length {before after : Placement α} (extended : Extends before after)
    (same : before.frames.length = after.frames.length) : before = after := by
  obtain ⟨leaf, frames⟩ := before
  obtain ⟨otherLeaf, otherFrames⟩ := after
  obtain ⟨leaves, kept⟩ := extended
  cases leaves
  cases kept.eq_of_length same
  rfl

theorem Extends.antisymm {first second : Placement α} (lower : Extends first second)
    (upper : Extends second first) : first = second :=
  lower.eq_of_length (Nat.le_antisymm lower.2.length_le upper.2.length_le)

theorem Extends.eq_of_transforms {before after : Placement α} (extended : Extends before after)
    (same : before.transforms = after.transforms) : before = after := by
  apply extended.eq_of_length
  have lengths := congrArg List.length same
  simp only [transforms, List.length_map, List.length_cons] at lengths
  omega

theorem within_injective (frame : LayerInfo α) : Function.Injective (within frame) := by
  intro first second same
  obtain ⟨leaf, frames⟩ := first
  obtain ⟨otherLeaf, otherFrames⟩ := second
  have leaves : leaf = otherLeaf := congrArg Placement.leaf same
  have framed : frames ++ [frame] = otherFrames ++ [frame] := congrArg Placement.frames same
  rw [leaves, List.append_cancel_right framed]

theorem within_ne (frame : LayerInfo α) (placement : Placement α) :
    placement.within frame ≠ placement := by
  intro same
  have framed : placement.frames ++ [frame] = placement.frames := congrArg Placement.frames same
  have lengths := congrArg List.length framed
  rw [List.length_append, List.length_singleton] at lengths
  omega

end Placement

/-- The same leaves in the same order, each under its own frames at least. -/
def Deepened (before after : List (Placement α)) : Prop :=
  List.Forall₂ Placement.Extends before after

namespace Deepened

theorem refl (placements : List (Placement α)) : Deepened placements placements :=
  List.forall₂_same.mpr (fun placement _ => Placement.Extends.refl placement)

theorem trans {first second third : List (Placement α)} (lower : Deepened first second)
    (upper : Deepened second third) : Deepened first third := by
  unfold Deepened at *
  induction lower generalizing third with
  | nil => exact upper
  | cons head _ ih =>
      cases upper with
      | cons upperHead upperTail => exact .cons (head.trans upperHead) (ih upperTail)

theorem append {before after moreBefore moreAfter : List (Placement α)}
    (front : Deepened before after) (back : Deepened moreBefore moreAfter) :
    Deepened (before ++ moreBefore) (after ++ moreAfter) :=
  List.rel_append front back

theorem length_eq {before after : List (Placement α)} (deepened : Deepened before after) :
    before.length = after.length :=
  List.Forall₂.length_eq deepened

theorem leaves_eq {before after : List (Placement α)} (deepened : Deepened before after) :
    before.map (·.leaf) = after.map (·.leaf) := by
  unfold Deepened at deepened
  induction deepened with
  | nil => rfl
  | cons head _ ih => rw [List.map_cons, List.map_cons, head.1, ih]

theorem antisymm {first second : List (Placement α)} (lower : Deepened first second)
    (upper : Deepened second first) : first = second := by
  unfold Deepened at *
  induction lower with
  | nil => rfl
  | cons head _ ih =>
      cases upper with
      | cons upperHead upperTail => rw [head.antisymm upperHead, ih upperTail]

/-- Equal transforms leave no room for further frames. -/
theorem eq_of_transforms {before after : List (Placement α)} (deepened : Deepened before after)
    (same : before.map Placement.transforms = after.map Placement.transforms) :
    before = after := by
  unfold Deepened at deepened
  induction deepened with
  | nil => rfl
  | cons head _ ih =>
      rw [List.map_cons, List.map_cons, List.cons.injEq] at same
      rw [head.eq_of_transforms same.1, ih same.2]

end Deepened

/-- Places what is drawn in the space of a frame, if there is one. -/
def withinAll (frame : Option (LayerInfo α)) (placements : List (Placement α)) :
    List (Placement α) :=
  match frame with
  | none => placements
  | some layer => placements.map (Placement.within layer)

theorem withinAll_append (frame : Option (LayerInfo α)) (first second : List (Placement α)) :
    withinAll frame (first ++ second) = withinAll frame first ++ withinAll frame second := by
  cases frame with
  | none => rfl
  | some layer => exact List.map_append

theorem deepened_withinAll (frame : Option (LayerInfo α)) (placements : List (Placement α)) :
    Deepened placements (withinAll frame placements) := by
  cases frame with
  | none => exact Deepened.refl placements
  | some layer =>
      exact List.forall₂_map_right_iff.mpr
        (List.forall₂_same.mpr (fun placement _ => Placement.extends_within layer placement))

theorem Deepened.withinAll {before after : List (Placement α)} (deepened : Deepened before after)
    (frame : Option (LayerInfo α)) :
    Deepened (withinAll frame before) (withinAll frame after) := by
  cases frame with
  | none => exact deepened
  | some layer =>
      apply List.forall₂_map_left_iff.mpr
      apply List.forall₂_map_right_iff.mpr
      exact List.Forall₂.imp (fun _ _ extended => extended.within layer) deepened

theorem withinAll_injective (frame : Option (LayerInfo α)) :
    Function.Injective (withinAll frame) := by
  cases frame with
  | none => intro first second same; exact same
  | some layer => exact List.map_injective_iff.mpr (Placement.within_injective layer)

/-- A frame moves whatever is drawn within it. -/
theorem withinAll_eq_self_iff {frame : Option (LayerInfo α)} {placements : List (Placement α)}
    (drawn : placements ≠ []) : withinAll frame placements = placements ↔ frame = none := by
  cases frame with
  | none => exact ⟨fun _ => rfl, fun _ => rfl⟩
  | some layer =>
      cases placements with
      | nil => exact absurd rfl drawn
      | cons first rest =>
          constructor
          · intro same
            have moved : first.within layer = first := (List.cons.inj same).1
            exact absurd moved (Placement.within_ne layer first)
          · intro impossible
            cases impossible

mutual

/-- The primitives of a member, placed in the space of its unit. -/
def ShapeMember.placements : ShapeMember α → List (Placement α)
  | .primitive layer => [.alone layer]
  | .nested frame members => withinAll (some frame) (memberPlacements members)

def memberPlacements : List (ShapeMember α) → List (Placement α)
  | [] => []
  | member :: rest => member.placements ++ memberPlacements rest

end

theorem memberPlacements_append (first second : List (ShapeMember α)) :
    memberPlacements (first ++ second) = memberPlacements first ++ memberPlacements second := by
  induction first with
  | nil => rfl
  | cons member rest ih =>
      rw [List.cons_append, memberPlacements, memberPlacements, ih, List.append_assoc]

namespace ShapeUnit

/-- The primitives of a unit, placed in the space around the unit. -/
def placements (unit : ShapeUnit α) : List (Placement α) :=
  withinAll unit.frame (memberPlacements unit.members)

theorem memberPlacements_asMembers (unit : ShapeUnit α) :
    memberPlacements unit.asMembers = unit.placements := by
  unfold asMembers placements
  cases unit.frame with
  | none => rfl
  | some frame =>
      change withinAll (some frame) (memberPlacements unit.members) ++ [] = _
      rw [List.append_nil]

/-- Collapsing a group puts its frame around the unit that it held. -/
theorem placements_framed (frame : LayerInfo α) (inner : ShapeUnit α) :
    (framed frame inner).placements = withinAll (some frame) inner.placements := by
  change withinAll (some frame) (memberPlacements inner.asMembers) = _
  rw [memberPlacements_asMembers]

/-- What a unit absorbs is drawn within the frame of the unit. -/
theorem placements_absorb (unit other : ShapeUnit α) :
    (unit.absorb other).placements =
      unit.placements ++ withinAll unit.frame other.placements := by
  change withinAll unit.frame (memberPlacements (unit.members ++ other.asMembers)) = _
  rw [memberPlacements_append, withinAll_append, memberPlacements_asMembers]
  rfl

theorem placements_push (unit : ShapeUnit α) (layer : LayerInfo α) :
    (unit.push layer).placements = unit.placements ++ withinAll unit.frame [.alone layer] := by
  change withinAll unit.frame (memberPlacements (unit.members ++ [.primitive layer])) = _
  rw [memberPlacements_append, withinAll_append]
  rfl

end ShapeUnit

end DesignExport
