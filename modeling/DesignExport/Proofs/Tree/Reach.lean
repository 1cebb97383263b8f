import DesignExport.Expression.Node
import DesignExport.Proofs.Tree.Gaps
import DesignExport.Proofs.Tree.Throughout
set_option autoImplicit false

/-! Which nodes are written when a tree is written. A background is not, nor is anything
below a layer that a parameter or a template of the user stands for, unless the template
has a place for it. -/

namespace DesignExport

variable {α : Type}

namespace NodeInfo

theorem others?_subset {node : NodeInfo α} {children rest : List (Node α)}
    (found : node.others? children = some rest) : rest ⊆ children := by
  obtain ⟨first, same⟩ := eq_cons_of_others? found
  unfold others? at found
  rw [same] at found ⊢
  dsimp only at found
  split at found
  · cases found
    exact List.subset_cons_self first rest
  · cases found

theorem written_subset (node : NodeInfo α) (children : List (Node α)) :
    node.written children ⊆ children := by
  unfold written
  split
  · split
    case h_1 only sole =>
      unfold soleChild? at sole
      split at sole
      · split at sole
        case h_1 other others =>
          cases sole
          exact others?_subset others
        case h_2 => cases sole
      · cases sole
    case h_2 => exact List.Subset.refl children
  · split
    · cases others : node.others? children with
      | none => exact List.Subset.refl children
      | some rest => exact others?_subset others
    · exact List.nil_subset children

/-- What the template of a layer has a place for. -/
def placeholder? (node : NodeInfo α) : Option Template.Placeholder :=
  (Template.cut? ((node.layer.textProperty? .customCode).getD usualTemplate).toList).map
    (·.placeholder)

/-- Whether there is code for the layer itself. -/
def isDrawn (node : NodeInfo α) : Bool :=
  match node.mode with
  | .inline | .method => true
  | .builder => false
  | .custom => node.placeholder? = some .this

/-- The children that are written when the node is. -/
def placed (node : NodeInfo α) (children : List (Node α)) : List (Node α) :=
  if node.isDrawn then node.written children
  else if node.mode = .custom && node.placeholder? = some .children then children
  else []

section Placed

variable {node : NodeInfo α} {children : List (Node α)}

theorem placed_of_isDrawn (isDrawn : node.isDrawn = true) :
    node.placed children = node.written children :=
  if_pos isDrawn

variable (custom : node.mode = .custom)

include custom

theorem isDrawn_of_this (place : node.placeholder? = some .this) : node.isDrawn = true := by
  rw [isDrawn, custom, place]
  rfl

theorem placed_of_children (place : node.placeholder? = some .children) :
    node.placed children = children := by
  have notDrawn : node.isDrawn = false := by
    rw [isDrawn, custom, place]
    rfl
  rw [placed, notDrawn, custom, place]
  rfl

end Placed

theorem placed_subset (node : NodeInfo α) (children : List (Node α)) :
    node.placed children ⊆ children := by
  unfold placed
  split
  · exact node.written_subset children
  · split
    · exact List.Subset.refl children
    · exact List.nil_subset children

end NodeInfo

namespace Node

theorem nodes_asChildren [Scalar α] (nodes : List (Node α)) :
    Child.nodes (asChildren nodes) = nodes := by
  induction nodes with
  | nil =>
      rw [asChildren]
      rfl
  | cons node rest ih => rw [asChildren, Child.nodes, List.map_cons, ← Child.nodes, ih]

/-- The children of a node are written as nodes of their own. -/
theorem write_eq_of_mem_asChildren [Scalar α] : ∀ {nodes : List (Node α)} {child : Child α},
    child ∈ asChildren nodes → child.write = writeWith child.node
  | [], child, member => by
      rw [asChildren] at member
      exact absurd member List.not_mem_nil
  | node :: rest, child, member => by
      rw [asChildren, List.mem_cons] at member
      rcases member with first | later
      · rw [first]
      · exact write_eq_of_mem_asChildren later

/-- A node is written when a node above it is. -/
inductive Reaches : Node α → Node α → Prop where
  | self (node : Node α) : Reaches node node
  | child {info : NodeInfo α} {children : List (Node α)} {child part : Node α}
      (placed : child ∈ info.placed children) (below : Reaches child part) :
      Reaches ⟨info, children⟩ part

theorem Reaches.mem_parts {node part : Node α} (reaches : node.Reaches part) :
    part ∈ node.parts := by
  induction reaches with
  | self node =>
      obtain ⟨info, children⟩ := node
      exact Node.mem_parts.mpr (Or.inl rfl)
  | @child info children child part placed _ inside =>
      exact Node.mem_parts.mpr (Or.inr ⟨child, info.placed_subset children placed, inside⟩)

/-- A part is not written: it is below a child that has no place in the code of a node that
is written. -/
def PassesOver (node part : Node α) : Prop :=
  ∃ above, node.Reaches above ∧
    ∃ child ∈ above.children, child ∉ above.placed above.children ∧ part ∈ child.parts

mutual

/-- Every part of a tree is written or passed over. -/
theorem reaches_or_passesOver {part : Node α} :
    ∀ {node : Node α}, part ∈ node.parts → node.Reaches part ∨ node.PassesOver part
  | ⟨info, children⟩, inside => by
      rw [parts, List.mem_cons] at inside
      rcases inside with same | below
      · exact Or.inl (same ▸ Reaches.self _)
      · obtain ⟨child, member, deeper, found⟩ := reaches_or_passesOverBelow below
        by_cases placed : child ∈ info.placed children
        · rcases found with reached | ⟨above, reached, rest⟩
          · exact Or.inl (Reaches.child placed reached)
          · exact Or.inr ⟨above, Reaches.child placed reached, rest⟩
        · exact Or.inr ⟨_, Reaches.self _, child, member, placed, deeper⟩

theorem reaches_or_passesOverBelow {part : Node α} :
    ∀ {nodes : List (Node α)}, part ∈ partsAll nodes →
      ∃ child ∈ nodes, part ∈ child.parts ∧ (child.Reaches part ∨ child.PassesOver part)
  | [], inside => absurd inside List.not_mem_nil
  | node :: rest, inside => by
      rw [partsAll, List.mem_append] at inside
      rcases inside with here | later
      · exact ⟨node, List.mem_cons_self, here, reaches_or_passesOver here⟩
      · obtain ⟨child, member, deeper, found⟩ := reaches_or_passesOverBelow later
        exact ⟨child, List.mem_cons_of_mem node member, deeper, found⟩

end

end Node

end DesignExport
