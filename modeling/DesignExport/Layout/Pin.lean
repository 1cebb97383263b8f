import DesignExport.Number.Scalar
set_option autoImplicit false

/-! Placement along one axis by distances from the edges of the parent. -/

namespace DesignExport

variable {α : Type} [Scalar α]

/-- Margins that are all at or below this are left out. -/
def marginBound : α := 2.0

structure Pin (α : Type) where
  size : α
  /-- The distance from the start of the parent. -/
  start : α
  finish : α
  /-- The start as a fraction of the parent, if neither start nor size is pinned. -/
  startFraction : Option α
  finishFraction : Option α
  /-- The part of the free space before the box, if only the size is pinned. -/
  middle : Option α

namespace Pin

def none : Pin α :=
  ⟨0.0, 0.0, 0.0, .none, .none, .none⟩

def fraction (length parent : α) : α :=
  if parent == 0.0 then 0.0 else Scalar.roundTo (length / parent) 4

def middleOf (start size parent : α) : α :=
  if parent == size then 0.5 else Scalar.roundTo (start / (parent - size)) 4

/-- `pinsStart`, `pinsSize` and `pinsFinish` are the constraints of the box. -/
def along (pinsStart pinsSize pinsFinish : Bool) (start size parent : α) : Pin α :=
  let finish := parent - (start + size)
  { size := Scalar.roundTo size 1
    start := Scalar.roundTo start 1
    finish := Scalar.roundTo finish 1
    startFraction := if !pinsStart && !pinsSize then some (fraction start parent) else .none
    finishFraction := if !pinsFinish && !pinsSize then some (fraction finish parent) else .none
    middle :=
      if pinsSize && !pinsStart && !pinsFinish then some (middleOf start size parent) else .none }

end Pin

end DesignExport
