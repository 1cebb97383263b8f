import DesignExport.Document.Layer
import DesignExport.Md5
set_option autoImplicit false

/-! Shapes that are drawn together as one picture. A unit holds primitive layers
and units that come from collapsed groups; these are drawn in the space of their
group. The view box, the markup and the identifier of a unit are remembered until
its members change. -/

namespace DesignExport

variable {α : Type} [Scalar α]

inductive ShapeMember (α : Type) where
  /-- In the space of the unit. -/
  | primitive (layer : LayerInfo α)
  /-- Drawn under the transform of its group, the frame. -/
  | nested (frame : LayerInfo α) (members : List (ShapeMember α))

structure ShapeUnit (α : Type) where
  /-- The collapsed group in whose space the members are. -/
  frame : Option (LayerInfo α)
  members : List (ShapeMember α)
  knownBox : Option (Rect α)
  knownMarkup : Option String
  knownId : Option String

/-- Widens a box to at least one unit on each axis. -/
def Rect.atLeastOne (rect : Rect α) : Rect α :=
  { rect with width := Scalar.atLeast 1.0 rect.width, height := Scalar.atLeast 1.0 rect.height }

/-- The smallest box around some bounds. -/
def boxAround (bounds : List (Rect α)) : Rect α :=
  ((Rect.unionAll? bounds).getD Rect.zero).atLeastOne

mutual

/-- The bounds of a member in the space of its unit. -/
def ShapeMember.bounds : ShapeMember α → Rect α
  | .primitive layer => layer.boundsInParent
  | .nested frame members => (boxAround (memberBounds members)).transformed frame.transform

def memberBounds : List (ShapeMember α) → List (Rect α)
  | [] => []
  | member :: rest => member.bounds :: memberBounds rest

end

mutual

/-- The primitives in drawing order. -/
def ShapeMember.primitives : ShapeMember α → List (LayerInfo α)
  | .primitive layer => [layer]
  | .nested _ members => memberPrimitives members

def memberPrimitives : List (ShapeMember α) → List (LayerInfo α)
  | [] => []
  | member :: rest => member.primitives ++ memberPrimitives rest

end

namespace ShapeUnit

/-- A unit of which nothing is remembered yet. -/
def fresh (frame : Option (LayerInfo α)) (members : List (ShapeMember α)) : ShapeUnit α :=
  ⟨frame, members, none, none, none⟩

def ofPrimitive (layer : LayerInfo α) : ShapeUnit α :=
  fresh none [.primitive layer]

/-- What a unit contributes to a unit around it: its members if it has no frame
of its own, itself otherwise. -/
def asMembers (unit : ShapeUnit α) : List (ShapeMember α) :=
  match unit.frame with
  | none => unit.members
  | some frame => [.nested frame unit.members]

/-- A unit drawn in the space of a collapsed group. -/
def framed (frame : LayerInfo α) (inner : ShapeUnit α) : ShapeUnit α :=
  fresh (some frame) inner.asMembers

def push (unit : ShapeUnit α) (layer : LayerInfo α) : ShapeUnit α :=
  fresh unit.frame (unit.members ++ [.primitive layer])

def absorb (unit other : ShapeUnit α) : ShapeUnit α :=
  fresh unit.frame (unit.members ++ other.asMembers)

def primitives (unit : ShapeUnit α) : List (LayerInfo α) :=
  memberPrimitives unit.members

/-- The box around the members, at least one unit on each axis. -/
def viewBox (unit : ShapeUnit α) : Rect α :=
  unit.knownBox.getD (boxAround (memberBounds unit.members))

/-- The view box in the space of the parent of the unit. -/
def boundsInParent (unit : ShapeUnit α) : Rect α :=
  match unit.frame with
  | some frame => unit.viewBox.transformed frame.transform
  | none => unit.viewBox

/-- Remembers the view box. -/
def withBox (unit : ShapeUnit α) : ShapeUnit α :=
  { unit with knownBox := some unit.viewBox }

end ShapeUnit

/-- The constant that holds a markup is named by the first digits of its digest. -/
def markupId (markup : String) : String :=
  "_svg_" ++ String.ofList ((Md5.hexOfText markup).toList.take 8)

end DesignExport
