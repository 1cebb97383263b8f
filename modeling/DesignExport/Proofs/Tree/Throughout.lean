import DesignExport.Tree.Merge
set_option autoImplicit false

/-! What holds of every node of a tree, and goes on to hold when shapes are merged. A
merge gives nodes fresh units, and takes no node's layer, layout, mode, decorators or
parameters from it. -/

namespace DesignExport

variable {α : Type}

namespace Node

mutual

/-- The node and all nodes below it. -/
def parts : Node α → List (Node α)
  | ⟨info, children⟩ => ⟨info, children⟩ :: partsAll children

def partsAll : List (Node α) → List (Node α)
  | [] => []
  | node :: rest => parts node ++ partsAll rest

end

/-- Every node of a tree has a property. -/
def Throughout (property : NodeInfo α → Prop) (node : Node α) : Prop :=
  ∀ part ∈ node.parts, property part.toNodeInfo

variable {property : NodeInfo α → Prop}

theorem mem_partsAll {part : Node α} {nodes : List (Node α)} :
    part ∈ partsAll nodes ↔ ∃ node ∈ nodes, part ∈ node.parts := by
  induction nodes with
  | nil => simp [partsAll]
  | cons node rest ih =>
      rw [partsAll, List.mem_append, ih]
      simp only [List.mem_cons, exists_eq_or_imp]

theorem mem_parts {part : Node α} {info : NodeInfo α} {children : List (Node α)} :
    part ∈ parts ⟨info, children⟩ ↔
      part = ⟨info, children⟩ ∨ ∃ child ∈ children, part ∈ child.parts := by
  rw [parts, List.mem_cons, mem_partsAll]

theorem throughout_mk {info : NodeInfo α} {children : List (Node α)} :
    Throughout property ⟨info, children⟩ ↔
      property info ∧ ∀ child ∈ children, child.Throughout property := by
  constructor
  · intro every
    refine ⟨every _ (mem_parts.mpr (Or.inl rfl)), fun child member part inside => ?_⟩
    exact every part (mem_parts.mpr (Or.inr ⟨child, member, inside⟩))
  · rintro ⟨own, below⟩ part inside
    rcases mem_parts.mp inside with same | ⟨child, member, deeper⟩
    · rw [same]
      exact own
    · exact below child member part deeper

mutual

/-- The parts of a part are parts. -/
theorem mem_parts_trans {part deeper : Node α} : ∀ {node : Node α}, part ∈ node.parts →
    deeper ∈ part.parts → deeper ∈ node.parts
  | ⟨info, children⟩, inside, below => by
      rw [parts, List.mem_cons] at inside
      rcases inside with same | inside
      · rw [same] at below
        exact below
      · rw [parts]
        exact List.mem_cons_of_mem _ (mem_partsAll_trans inside below)

theorem mem_partsAll_trans {part deeper : Node α} : ∀ {nodes : List (Node α)},
    part ∈ partsAll nodes → deeper ∈ part.parts → deeper ∈ partsAll nodes
  | [], inside, _ => absurd inside List.not_mem_nil
  | node :: rest, inside, below => by
      rw [partsAll, List.mem_append] at inside ⊢
      rcases inside with first | later
      · exact Or.inl (mem_parts_trans first below)
      · exact Or.inr (mem_partsAll_trans later below)

end

theorem Throughout.part {node part : Node α} (every : node.Throughout property)
    (inside : part ∈ node.parts) : part.Throughout property :=
  fun deeper below => every deeper (mem_parts_trans inside below)

/-- A node may become the shape of a fresh unit. -/
def KeptByShapes (property : NodeInfo α → Prop) : Prop :=
  ∀ (info : NodeInfo α) (frame : Option (LayerInfo α)) (members : List (ShapeMember α)),
    property info → property { info with kind := .shape (ShapeUnit.fresh frame members) }

section Merging

variable (kept : KeptByShapes property)

include kept

theorem throughout_reshape {info : NodeInfo α} {children : List (Node α)}
    (frame : Option (LayerInfo α)) (members : List (ShapeMember α))
    (every : Throughout property ⟨info, children⟩) :
    Throughout property ⟨{ info with kind := .shape (ShapeUnit.fresh frame members) }, children⟩ := by
  rw [throughout_mk] at every ⊢
  exact ⟨kept info frame members every.1, every.2⟩

theorem throughout_asShape {node : Node α} (every : node.Throughout property) :
    node.asShape.Throughout property := by
  obtain ⟨info, children⟩ := node
  unfold asShape
  split
  · exact throughout_reshape kept _ _ every
  · exact every

theorem throughout_absorb {node : Node α} (other : Node α) (every : node.Throughout property) :
    (node.absorb other).Throughout property := by
  obtain ⟨info, children⟩ := node
  unfold absorb
  split
  · exact throughout_reshape kept _ _ every
  · exact throughout_reshape kept _ _ every
  · exact every

theorem throughout_foldl_absorb (others : List (Node α)) :
    ∀ node : Node α, node.Throughout property → (others.foldl absorb node).Throughout property := by
  induction others with
  | nil => exact fun _ every => every
  | cons other rest ih =>
      exact fun node every => ih _ (throughout_absorb kept other every)

theorem throughout_mergeRun : ∀ {run : List (Node α)}, (∀ node ∈ run, node.Throughout property) →
    ∀ node ∈ mergeRun run, node.Throughout property
  | [], each => each
  | [_], each => each
  | first :: second :: others, each => by
      intro node member
      rw [List.mem_singleton.mp member]
      exact throughout_foldl_absorb kept _ _
        (throughout_asShape kept (each first List.mem_cons_self))

theorem throughout_mergeRuns (eager : Bool) (nodes : List (Node α)) :
    ∀ run : List (Node α), (∀ node ∈ run, node.Throughout property) →
      (∀ node ∈ nodes, node.Throughout property) →
      ∀ node ∈ mergeRuns eager run nodes, node.Throughout property := by
  induction nodes with
  | nil => exact fun run begun _ => throughout_mergeRun kept begun
  | cons node rest ih =>
      intro run begun each
      obtain ⟨first, others⟩ := List.forall_mem_cons.mp each
      rw [mergeRuns]
      split
      · refine ih (run ++ [node]) ?_ others
        intro other member
        rcases List.mem_append.mp member with early | last
        · exact begun other early
        · rw [List.mem_singleton.mp last]
          exact first
      · intro other member
        rcases List.mem_append.mp member with merged | later
        · exact throughout_mergeRun kept begun other merged
        · rcases List.mem_cons.mp later with same | deeper
          · rw [same]
            exact first
          · exact ih [] (fun _ absent => absurd absent List.not_mem_nil) others other deeper

theorem throughout_mergeSiblings (eager hasBackground : Bool) {children : List (Node α)}
    (each : ∀ child ∈ children, child.Throughout property) :
    ∀ node ∈ mergeSiblings eager hasBackground children, node.Throughout property := by
  have nothing : ∀ node ∈ ([] : List (Node α)), node.Throughout property :=
    fun _ absent => absurd absent List.not_mem_nil
  unfold mergeSiblings
  split
  case h_1 first rest =>
    obtain ⟨background, others⟩ := List.forall_mem_cons.mp each
    exact List.forall_mem_cons.mpr
      ⟨background, throughout_mergeRuns kept eager rest [] nothing others⟩
  case h_2 => exact throughout_mergeRuns kept eager children [] nothing each

theorem throughout_mergeChildren (eager : Bool) {node : Node α}
    (every : node.Throughout property) : (node.mergeChildren eager).Throughout property := by
  obtain ⟨info, children⟩ := node
  unfold mergeChildren
  split
  · exact every
  · rw [throughout_mk] at every ⊢
    exact ⟨every.1, throughout_mergeSiblings kept eager _ every.2⟩

variable [Scalar α]

theorem throughout_collapse {node : Node α} (every : node.Throughout property) :
    node.collapse.Throughout property := by
  obtain ⟨info, children⟩ := node
  unfold collapse
  split
  · split
    · split
      · rw [throughout_mk] at every ⊢
        exact ⟨kept info _ _ every.1, fun _ absent => absurd absent List.not_mem_nil⟩
      · exact every
    · exact every
  · exact every

end Merging

variable [Scalar α]

mutual

/-- The shape pass keeps what its single steps keep. -/
theorem throughout_combineShapes (kept : KeptByShapes property) : ∀ (node : Node α) (eager : Bool),
    node.Throughout property → (node.combineShapes eager).Throughout property
  | ⟨info, children⟩, eager, every => by
      rw [combineShapes]
      rw [throughout_mk] at every
      have below := throughout_combineAll kept children (isEagerBelow info.layer eager) every.2
      exact throughout_collapse kept
        (throughout_mergeChildren kept _ (throughout_mk.mpr ⟨every.1, below⟩))

theorem throughout_combineAll (kept : KeptByShapes property) : ∀ (nodes : List (Node α)) (eager : Bool),
    (∀ node ∈ nodes, node.Throughout property) →
      ∀ node ∈ combineAll nodes eager, node.Throughout property
  | [], _, each => each
  | node :: rest, eager, each => by
      obtain ⟨first, others⟩ := List.forall_mem_cons.mp each
      rw [combineAll]
      exact List.forall_mem_cons.mpr
        ⟨throughout_combineShapes kept node eager first,
          throughout_combineAll kept rest eager others⟩

end

end Node

end DesignExport
