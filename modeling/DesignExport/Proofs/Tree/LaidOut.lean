import DesignExport.Proofs.Document.Owners
import DesignExport.Proofs.Export.Trees
import DesignExport.Proofs.Tree.Carried
import DesignExport.Proofs.Tree.Origins
set_option autoImplicit false

/-! Where built nodes take their places from. Each child has the layout of its layer in
the layer of its parent, also after shapes have been merged. -/

namespace DesignExport

variable {α : Type} [Scalar α]

/-- The layout of a layer, given its owner. -/
def Layout.within (owner : Option (LayerInfo α)) (layer : LayerInfo α) : Layout α :=
  Layout.ofInput (LayoutInput.ofLayer layer owner)

/-- Below a node every child has its layout in its parent. -/
def Node.IsLaidOut (node : Node α) : Prop :=
  ∀ part ∈ node.parts, ∀ child ∈ part.children, child.layout = Layout.within (some part.layer) child.layer

namespace Node

/-- The index finds the owner of every layer below another one. -/
def KnowsOwners (index : Index α) (layers : List (Layer α)) : Prop :=
  ∀ part ∈ layers, ∀ child ∈ part.children, index.parentOf? child.guid = some part

variable {start : Context α} {layer : Layer α}

/-- What is built of a child of a layer has its layout in that layer. -/
theorem layout_of_child {child : Layer α} {node : Node α}
    (owner : start.index.parentOf? child.guid = some layer)
    (built : ((build child).run start).1 = some node) :
    node.layout = Layout.within (some layer.toLayerInfo) node.layer := by
  obtain ⟨made, -⟩ := build_run_eq_some built
  rw [made.layout_eq, made.layer_eq]
  change Layout.within ((start.index.parentOf? child.guid).map (·.toLayerInfo)) _ = _
  rw [owner]
  rfl

theorem layout_of_mem_children {part child : Node α}
    (owners : ∀ below ∈ layer.children, start.index.parentOf? below.guid = some layer)
    (built : ((build layer).run start).1 = some part) (member : child ∈ part.children) :
    child.layout = Layout.within (some part.layer) child.layer := by
  obtain ⟨made, sources⟩ := build_run_eq_some built
  obtain ⟨below, inside, origin⟩ := sources child member
  rw [made.layer_eq]
  exact layout_of_child (owners below inside) origin

theorem build_isLaidOut {node : Node α} (owners : KnowsOwners start.index layer.flatten)
    (built : ((build layer).run start).1 = some node) : node.IsLaidOut := by
  intro part inside child member
  obtain ⟨source, among, origin⟩ := exists_source built inside
  exact layout_of_mem_children (owners source among) origin member

theorem buildRoot_isLaidOut (owners : KnowsOwners start.index layer.flatten) :
    ((buildRoot layer).run start).1.IsLaidOut := by
  obtain ⟨info, children⟩ := layer
  rw [Layer.flatten] at owners
  obtain ⟨own, below⟩ := List.forall_mem_cons.mp owners
  intro part inside child member
  rcases mem_parts.mp inside with same | ⟨node, within, deeper⟩
  · rw [same] at member ⊢
    obtain ⟨source, among, built⟩ := exists_of_mem_buildAll member
    exact layout_of_child (own source among) built
  · obtain ⟨source, among, built⟩ := exists_source_of_mem_buildAll within deeper
    exact layout_of_mem_children (below source among) built member

/-! ### Merged trees -/

omit [Scalar α] in
/-- After children are merged each of them is a child from before, or has become a shape. -/
theorem exists_of_mem_mergedChildren {eager : Bool} {info : NodeInfo α} {children : List (Node α)}
    {node : Node α} (member : node ∈ mergedChildren eager info children) :
    ∃ child ∈ children, ∃ kind : NodeKind α, node = { child with kind := kind } := by
  have kept (within : node ∈ children) :
      ∃ child ∈ children, ∃ kind : NodeKind α, node = { child with kind := kind } := by
    obtain ⟨own, below⟩ := node
    exact ⟨_, within, own.kind, rfl⟩
  unfold mergedChildren at member
  split at member
  · exact kept member
  · rw [mergeSiblings_eq_flatMap, List.mem_flatMap] at member
    obtain ⟨run, found, inside⟩ := member
    match run, found, inside with
    | [_], found, inside => exact kept (mem_of_mem_siblingRuns _ _ _ found inside)
    | first :: second :: others, found, inside =>
        obtain ⟨last, merged⟩ := exists_kind_foldl_absorb (second :: others) first.asShape
        obtain ⟨begun, framed⟩ := exists_kind_asShape first
        refine ⟨first, mem_of_mem_siblingRuns _ _ _ found List.mem_cons_self, last, ?_⟩
        rw [List.mem_singleton.mp inside, merged, framed]

theorem isLaidOut_mk {info : NodeInfo α} {children : List (Node α)} :
    IsLaidOut ⟨info, children⟩ ↔
      (∀ child ∈ children, child.layout = Layout.within (some info.layer) child.layer) ∧
        ∀ child ∈ children, child.IsLaidOut := by
  constructor
  · intro laidOut
    refine ⟨laidOut _ (mem_parts.mpr (Or.inl rfl)), fun child member part inside => ?_⟩
    exact laidOut part (mem_parts.mpr (Or.inr ⟨child, member, inside⟩))
  · rintro ⟨own, below⟩ part inside
    rcases mem_parts.mp inside with same | ⟨child, member, deeper⟩
    · rw [same]
      exact own
    · exact below child member part deeper

theorem IsLaidOut.unplaced {node : Node α} (laidOut : node.IsLaidOut) : node.unplaced.IsLaidOut := by
  obtain ⟨info, children⟩ := node
  obtain ⟨own, below⟩ := isLaidOut_mk.mp laidOut
  exact isLaidOut_mk.mpr ⟨own, below⟩

theorem layout_combineShapes (node : Node α) (eager : Bool) :
    (node.combineShapes eager).layout = node.layout := by
  obtain ⟨info, children⟩ := node
  rw [combineShapes, mergeChildren_eq]
  rcases collapse_cases ⟨info, mergedChildren (isEagerBelow info.layer eager) info
    (combineAll children (isEagerBelow info.layer eager))⟩ with
    same | ⟨_, _, _, _, _, _, _, collapsed⟩
  · rw [same]
  · rw [collapsed]

/-- Children that take the places of others are laid out as these. -/
theorem isLaidOut_of_forall_exists {info : NodeInfo α} {children merged : List (Node α)}
    (places : ∀ node ∈ merged, ∃ child ∈ children, ∃ kind : NodeKind α, node = { child with kind := kind })
    (laidOut : IsLaidOut ⟨info, children⟩) : IsLaidOut ⟨info, merged⟩ := by
  obtain ⟨own, below⟩ := isLaidOut_mk.mp laidOut
  refine isLaidOut_mk.mpr ⟨fun node member => ?_, fun node member => ?_⟩
  · obtain ⟨child, inside, kind, same⟩ := places node member
    rw [same]
    exact own child inside
  · obtain ⟨⟨child, deeper⟩, inside, kind, same⟩ := places node member
    obtain ⟨first, others⟩ := isLaidOut_mk.mp (below _ inside)
    rw [same]
    exact isLaidOut_mk.mpr ⟨first, others⟩

mutual

/-- The shape pass leaves what is left in its place. -/
theorem IsLaidOut.combineShapes : ∀ {node : Node α}, node.IsLaidOut → ∀ eager : Bool,
    (node.combineShapes eager).IsLaidOut
  | ⟨info, children⟩, laidOut, eager => by
      obtain ⟨own, below⟩ := isLaidOut_mk.mp laidOut
      have passed : IsLaidOut ⟨info, combineAll children (isEagerBelow info.layer eager)⟩ := by
        refine isLaidOut_mk.mpr ⟨fun node member => ?_, isLaidOut_combineAll below _⟩
        obtain ⟨child, inside, same⟩ := exists_of_mem_combineAll member
        rw [same, layout_combineShapes, (carries_combineShapes child _).layer]
        exact own child inside
      rw [Node.combineShapes, mergeChildren_eq]
      rcases collapse_cases ⟨info, mergedChildren (isEagerBelow info.layer eager) info
        (combineAll children (isEagerBelow info.layer eager))⟩ with
        same | ⟨_, _, _, _, _, _, _, collapsed⟩
      · rw [same]
        exact isLaidOut_of_forall_exists (fun _ => exists_of_mem_mergedChildren) passed
      · rw [collapsed]
        exact isLaidOut_mk.mpr ⟨fun _ absent => absurd absent List.not_mem_nil,
          fun _ absent => absurd absent List.not_mem_nil⟩

theorem isLaidOut_combineAll : ∀ {nodes : List (Node α)}, (∀ node ∈ nodes, node.IsLaidOut) →
    ∀ eager : Bool, ∀ node ∈ combineAll nodes eager, node.IsLaidOut
  | [], _, _ => by
      rw [combineAll]
      exact fun _ absent => absurd absent List.not_mem_nil
  | first :: rest, laidOut, eager => by
      obtain ⟨own, others⟩ := List.forall_mem_cons.mp laidOut
      rw [combineAll]
      exact List.forall_mem_cons.mpr ⟨own.combineShapes eager, isLaidOut_combineAll others eager⟩

end

end Node

end DesignExport
