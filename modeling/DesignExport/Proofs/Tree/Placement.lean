import DesignExport.Proofs.Shape.Placement
import DesignExport.Proofs.Tree.Kinds
import DesignExport.Tree.Merge
set_option autoImplicit false

/-! Where the leaves of a tree are drawn, and what the shape pass does to that. The
pass never takes a frame away from a leaf. It puts a leaf into a frame that is not
its own exactly where a run of neighbours begins with a collapsed group: the others
of the run are then drawn in the space of that group. -/

namespace DesignExport

open Compile (Yields)

variable {α : Type}

namespace NodeInfo

/-- The leaves of a node, given those of its children. A group without children is a
leaf itself. -/
def place (node : NodeInfo α) (isChildless : Bool) (inner : List (Placement α)) :
    List (Placement α) :=
  match node.kind with
  | .shape unit => unit.placements
  | .widgetRoot => withinAll (some node.layer) inner
  | .group .plain | .group (.scroll _) =>
      if isChildless then [.alone node.layer] else withinAll (some node.layer) inner
  | .box | .text | .group (.instanceOf _) => [.alone node.layer]

theorem deepened_place {before after : List (Placement α)} (node : NodeInfo α)
    (isChildless : Bool) (deepened : Deepened before after) :
    Deepened (node.place isChildless before) (node.place isChildless after) := by
  unfold place
  split
  · exact Deepened.refl _
  · exact deepened.withinAll _
  · split
    · exact Deepened.refl _
    · exact deepened.withinAll _
  · split
    · exact Deepened.refl _
    · exact deepened.withinAll _
  all_goals exact Deepened.refl _

/-- Roots and groups with children place these in their own space. -/
theorem place_of_takesChildren {node : NodeInfo α} (takes : node.kind.takesChildren = true)
    (inner : List (Placement α)) : node.place false inner = withinAll (some node.layer) inner := by
  unfold place
  cases kind : node.kind with
  | widgetRoot => rfl
  | group inside =>
      cases inside with
      | plain | scroll => rfl
      | instanceOf => rw [kind] at takes; cases takes
  | box | shape | text => rw [kind] at takes; cases takes

/-- The collapsed group in whose space a shape is drawn. -/
def frame? (node : NodeInfo α) : Option (LayerInfo α) :=
  match node.kind with
  | .shape unit => unit.frame
  | _ => none

/-- Shapes, and boxes, which can become shapes. -/
def isPicture (node : NodeInfo α) : Bool :=
  match node.kind with
  | .shape _ | .box => true
  | _ => false

end NodeInfo

namespace Node

mutual

/-- The leaves of a tree in drawing order, placed in the space around the tree. -/
def placements : Node α → List (Placement α)
  | ⟨info, children⟩ => info.place children.isEmpty (placementsAll children)

def placementsAll : List (Node α) → List (Placement α)
  | [] => []
  | node :: rest => placements node ++ placementsAll rest

end

theorem placements_eq (node : Node α) :
    node.placements = node.place node.children.isEmpty (placementsAll node.children) := by
  cases node
  rfl

theorem placementsAll_append (first second : List (Node α)) :
    placementsAll (first ++ second) = placementsAll first ++ placementsAll second := by
  induction first with
  | nil => rfl
  | cons node rest ih =>
      rw [List.cons_append, placementsAll, placementsAll, ih, List.append_assoc]

theorem placementsAll_flatMap {β : Type} (items : List β) (nodes : β → List (Node α)) :
    placementsAll (items.flatMap nodes) = items.flatMap (fun item => placementsAll (nodes item)) := by
  induction items with
  | nil => rfl
  | cons item rest ih => rw [List.flatMap_cons, List.flatMap_cons, placementsAll_append, ih]

theorem placements_of_shape {node : Node α} {unit : ShapeUnit α} (shape : node.kind = .shape unit) :
    node.placements = unit.placements := by
  rw [placements_eq, NodeInfo.place, shape]

theorem placements_of_box {node : Node α} (box : node.kind = .box) :
    node.placements = [.alone node.layer] := by
  rw [placements_eq, NodeInfo.place, box]

/-- Whatever is built below a root is drawn. -/
theorem placements_ne_nil : ∀ node : Node α, node.kind.Suits node.layer → node.IsAsBuilt →
    node.placements ≠ []
  | ⟨⟨layer, kind, layout, decorators, mode, params⟩, children⟩, suits, built => by
      cases kind with
      | widgetRoot => exact absurd suits id
      | box | text => exact List.cons_ne_nil _ _
      | shape unit =>
          have own : unit = ShapeUnit.ofPrimitive layer := suits
          subst own
          exact List.cons_ne_nil _ _
      | group inside =>
          cases inside with
          | instanceOf => exact List.cons_ne_nil _ _
          | plain | scroll =>
              cases children with
              | nil => exact List.cons_ne_nil _ _
              | cons child rest =>
                  obtain ⟨childSuits, childBuilt⟩ := built.2.1
                  intro empty
                  have inner := List.map_eq_nil_iff.mp empty
                  exact placements_ne_nil child childSuits childBuilt
                    (List.append_eq_nil_iff.mp inner).1

/-! ### Merging a run -/

/-- A shape absorbs a picture into its own frame and keeps that frame. -/
theorem absorb_of_shape {node other : Node α} (shape : node.isShape = true)
    (picture : other.isPicture = true) :
    (node.absorb other).isShape = true ∧ (node.absorb other).frame? = node.frame? ∧
      (node.absorb other).placements =
        node.placements ++ withinAll node.frame? other.placements := by
  obtain ⟨⟨layer, kind, layout, decorators, mode, params⟩, children⟩ := node
  cases kind with
  | shape unit =>
      cases inner : other.kind with
      | shape absorbed =>
          simp only [absorb, inner]
          refine ⟨rfl, rfl, ?_⟩
          rw [placements_of_shape inner]
          exact ShapeUnit.placements_absorb unit absorbed
      | box =>
          simp only [absorb, inner]
          refine ⟨rfl, rfl, ?_⟩
          rw [placements_of_box inner]
          exact ShapeUnit.placements_push unit other.layer
      | widgetRoot | group | text =>
          rw [NodeInfo.isPicture, inner] at picture
          cases picture
  | widgetRoot | box | group | text => cases shape

theorem placements_foldl_absorb (others : List (Node α)) :
    ∀ node : Node α, node.isShape = true → (∀ other ∈ others, other.isPicture = true) →
      (others.foldl absorb node).placements =
        node.placements ++ withinAll node.frame? (placementsAll others) := by
  induction others with
  | nil =>
      intro node _ _
      have nothing : withinAll node.frame? (placementsAll ([] : List (Node α))) = [] := by
        cases node.frame? <;> rfl
      rw [List.foldl_nil, nothing, List.append_nil]
  | cons other rest ih =>
      intro node shape pictures
      obtain ⟨picture, pictures⟩ := List.forall_mem_cons.mp pictures
      obtain ⟨absorbed, frame, placed⟩ := absorb_of_shape shape picture
      rw [List.foldl_cons, ih _ absorbed pictures, frame, placed, placementsAll, withinAll_append,
        List.append_assoc]

/-- A box becomes a shape without a frame. -/
theorem asShape_of_picture {node : Node α} (picture : node.isPicture = true) :
    node.asShape.isShape = true ∧ node.asShape.frame? = node.frame? ∧
      node.asShape.placements = node.placements := by
  obtain ⟨⟨layer, kind, layout, decorators, mode, params⟩, children⟩ := node
  cases kind with
  | shape | box => exact ⟨rfl, rfl, rfl⟩
  | widgetRoot | group | text => cases picture

/-- The first of a run lends its frame to all the others. -/
theorem placementsAll_mergeRun {first second : Node α} {others : List (Node α)}
    (pictures : ∀ node ∈ first :: second :: others, node.isPicture = true) :
    placementsAll (mergeRun (first :: second :: others)) =
      first.placements ++ withinAll first.frame? (placementsAll (second :: others)) := by
  obtain ⟨picture, pictures⟩ := List.forall_mem_cons.mp pictures
  obtain ⟨shape, frame, placed⟩ := asShape_of_picture picture
  change placements ((second :: others).foldl absorb first.asShape) ++ [] = _
  rw [List.append_nil, placements_foldl_absorb _ _ shape pictures, frame, placed]

end Node

end DesignExport
