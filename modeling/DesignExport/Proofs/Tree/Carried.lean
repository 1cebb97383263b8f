import DesignExport.Proofs.Tree.Handed
import DesignExport.Proofs.Tree.Reach
set_option autoImplicit false

/-! What the shape pass carries over. A node that is decorated, not inline, a label or a
box has a node in its place afterwards, unless it is a box that is merged with neighbours.
And what is mentioned afterwards by a node of the tree, was asked for by the node in its
place before. -/

namespace DesignExport

variable {α : Type}

namespace NodeInfo

/-- Nodes of which more is written than a picture of their layers. -/
def StandsOut (node : NodeInfo α) : Prop :=
  ¬ node.IsBare ∨ node.kind = .text ∨ node.kind = .box

end NodeInfo

namespace Node

/-- A node stands in the place of a part of the tree before the pass: at most, a group has
become a shape. -/
structure Carries (carrier part : Node α) : Prop where
  layer : carrier.layer = part.layer
  decorators : carrier.decorators = part.decorators
  mode : carrier.mode = part.mode
  params : carrier.params = part.params
  kind : carrier.kind = part.kind ∨ part.kind = .group .plain ∧ carrier.isShape = true
  isEmptyGroup : carrier.isEmptyGroup carrier.children = part.isEmptyGroup part.children

theorem Carries.standsOut {carrier part : Node α} (carries : carrier.Carries part)
    (stands : part.StandsOut) (bare : carrier.IsBare) : carrier.kind = .text ∨ carrier.kind = .box := by
  have own : part.IsBare := ⟨carries.decorators ▸ bare.1, carries.mode ▸ bare.2⟩
  have labelOrBox := stands.resolve_left (not_not_intro own)
  rcases carries.kind with same | ⟨plain, -⟩
  · rw [same]
    exact labelOrBox
  · rw [plain] at labelOrBox
    rcases labelOrBox with label | box
    · cases label
    · cases box

/-- A child stays where it is, or it is merged with its neighbours. -/
theorem mem_mergedChildren_or (eager : Bool) (info : NodeInfo α) {children : List (Node α)}
    {node : Node α} (member : node ∈ children) : node ∈ mergedChildren eager info children ∨
      Joins eager node ∧ ∃ run ∈ mergingRuns eager info children, node ∈ run := by
  unfold mergedChildren mergingRuns
  split
  · exact Or.inl member
  · rw [← flatten_siblingRuns eager (hasBackground ⟨info, children⟩) children] at member
    obtain ⟨run, inside, found⟩ := List.mem_flatten.mp member
    rw [mergeSiblings_eq_flatMap]
    rcases joins_of_mem_siblingRuns _ _ _ run inside with joined | ⟨single, same⟩
    · match run, inside, found, joined with
      | [_], inside, found, _ => exact Or.inl (List.mem_flatMap.mpr ⟨_, inside, found⟩)
      | first :: second :: others, inside, found, joined =>
          refine Or.inr ⟨joined node found, _, List.mem_filter.mpr ⟨inside, ?_⟩, found⟩
          exact decide_eq_true (by rw [List.length_cons, List.length_cons]; omega)
    · refine Or.inl (List.mem_flatMap.mpr ⟨run, inside, ?_⟩)
      rw [same] at found ⊢
      exact found

variable [Scalar α]

theorem carries_combineShapes (node : Node α) (eager : Bool) :
    (node.combineShapes eager).Carries node := by
  obtain ⟨info, children⟩ := node
  have listed : (mergedChildren (isEagerBelow info.layer eager) info
      (combineAll children (isEagerBelow info.layer eager))).isEmpty = children.isEmpty := by
    rw [isEmpty_mergedChildren, isEmpty_combineAll]
  rw [combineShapes, mergeChildren_eq]
  rcases collapse_cases ⟨info, mergedChildren (isEagerBelow info.layer eager) info
    (combineAll children (isEagerBelow info.layer eager))⟩ with
    same | ⟨child, unit, only, -, -, -, collapsible, collapsed⟩
  · rw [same]
    refine ⟨rfl, rfl, rfl, rfl, Or.inl rfl, ?_⟩
    change info.isEmptyGroup _ = info.isEmptyGroup children
    rw [NodeInfo.isEmptyGroup, listed]
    rfl
  · rw [collapsed]
    have plain : info.kind = .group .plain := plain_of_isCollapsible collapsible
    refine ⟨rfl, rfl, rfl, rfl, Or.inr ⟨plain, rfl⟩, ?_⟩
    change mergedChildren _ info _ = [child] at only
    rw [only] at listed
    change false = info.isEmptyGroup children
    rw [NodeInfo.isEmptyGroup, ← listed]
    exact (Bool.and_false _).symm

/-- Nodes that are pictures after the pass have nothing below them. -/
theorem eq_of_mem_parts_of_isPicture {node part : Node α} {eager : Bool} (built : node.IsAsBuilt)
    (picture : (node.combineShapes eager).isPicture = true)
    (inside : part ∈ (node.combineShapes eager).parts) : part = node.combineShapes eager := by
  have childless := children_eq_nil_of_isPicture built picture
  generalize node.combineShapes eager = made at childless inside ⊢
  obtain ⟨info, children⟩ := made
  change children = [] at childless
  rw [childless] at inside ⊢
  exact List.mem_singleton.mp inside

theorem childless_of_mem_combineAll {nodes : List (Node α)} {eager : Bool} (built : AreAsBuilt nodes) :
    ∀ node ∈ combineAll nodes eager, node.isPicture = true → node.children = [] := by
  intro node member picture
  obtain ⟨child, inside, same⟩ := exists_of_mem_combineAll member
  have own : child.IsAsBuilt :=
    (asBuilt_of_mem_partsAll (mem_partsAll.mpr ⟨child, inside, mem_parts_self child⟩) built).2
  rw [same] at picture ⊢
  exact children_eq_nil_of_isPicture own picture

/-- Only boxes become boxes, and the pass does nothing to them. -/
theorem eq_of_isBox_combineShapes {node : Node α} {eager : Bool} (built : node.IsAsBuilt)
    (box : (node.combineShapes eager).kind = .box) :
    node.combineShapes eager = node ∧ node.children = [] := by
  have carries := node.carries_combineShapes eager
  have own : node.kind = .box := by
    rcases carries.kind with same | ⟨-, shape⟩
    · exact same.symm.trans box
    · rw [NodeInfo.isShape, box] at shape
      cases shape
  obtain ⟨info, children⟩ := node
  change info.kind = .box at own
  have childless : children = [] := built.1 (by rw [own]; rfl)
  rw [childless, combineShapes_childless]
  exact ⟨rfl, rfl⟩

/-! ### Carriers of parts -/

/-- What stands in the place of a node below stays in the tree, unless it is a box that is
merged with neighbours. -/
theorem mem_parts_of_carrier {info : NodeInfo α} {children : List (Node α)}
    {child carrier part : Node α} {eager : Bool} (member : child ∈ children)
    (built : child.IsAsBuilt) (inside : part ∈ child.parts) (stands : part.StandsOut)
    (carries : carrier.Carries part)
    (below : carrier ∈ (child.combineShapes (isEagerBelow info.layer eager)).parts) :
    carrier ∈ (combineShapes ⟨info, children⟩ eager).parts ∨
      part.kind = .box ∧ ∃ run ∈ mergedRuns ⟨info, children⟩ eager, part ∈ run := by
  rw [combineShapes, mergedRuns, mergeChildren_eq]
  generalize isEagerBelow info.layer eager = merges at below ⊢
  have listed : child.combineShapes merges ∈ combineAll children merges := mem_combineAll member
  rcases mem_mergedChildren_or merges info listed with kept | ⟨joins, run, found, joined⟩
  · refine Or.inl ?_
    rcases collapse_cases ⟨info, mergedChildren merges info (combineAll children merges)⟩ with
      same | ⟨only, unit, single, shape, plain, inline, -, -⟩
    · rw [same]
      exact Node.mem_parts.mpr (Or.inr ⟨_, kept, below⟩)
    · -- A group collapses around a bare shape, and there is nothing that stands out in that.
      change mergedChildren merges info (combineAll children merges) = [only] at single
      rw [single, List.mem_singleton] at kept
      rw [← kept] at shape plain inline
      have alone := eq_of_mem_parts_of_isPicture built (by rw [NodeInfo.isPicture, shape]) below
      have labelOrBox := carries.standsOut stands (by rw [alone]; exact ⟨plain, inline⟩)
      rw [alone, shape] at labelOrBox
      rcases labelOrBox with label | box
      · cases label
      · cases box
  · have picture := isPicture_of_isAbsorbable joins.1
    have alone := eq_of_mem_parts_of_isPicture built picture below
    rcases carries.standsOut stands (by rw [alone]; exact (isBare_of_joins joins).1) with label | box
    · rw [alone] at label
      rw [NodeInfo.isPicture, label] at picture
      cases picture
    · rw [alone] at box
      obtain ⟨same, childless⟩ := eq_of_isBox_combineShapes built box
      rw [same] at box joined
      obtain ⟨own, nodes⟩ := child
      change nodes = [] at childless
      rw [childless] at inside
      rw [List.mem_singleton.mp inside, ← childless]
      exact Or.inr ⟨box, run, List.mem_append_right _ found, joined⟩

mutual

/-- A node that stands out is carried over, or it is a box that is merged. -/
theorem exists_carrier {part : Node α} (stands : part.StandsOut) : ∀ (node : Node α) (eager : Bool),
    node.IsAsBuilt → part ∈ node.parts →
      (∃ carrier ∈ (node.combineShapes eager).parts, carrier.Carries part) ∨
        part.kind = .box ∧ ∃ run ∈ node.mergedRuns eager, part ∈ run
  | ⟨info, children⟩, eager, built, inside => by
      rw [parts, List.mem_cons] at inside
      rcases inside with same | below
      · exact Or.inl ⟨_, mem_parts_self _, same ▸ carries_combineShapes _ _⟩
      · obtain ⟨child, member, childBuilt, deeper, found⟩ :=
          exists_carrierBelow stands children (isEagerBelow info.layer eager) built.2 below
        rcases found with ⟨carrier, kept, carries⟩ | ⟨box, run, merged, joined⟩
        · exact (mem_parts_of_carrier member childBuilt deeper stands carries kept).imp_left
            fun stays => ⟨carrier, stays, carries⟩
        · refine Or.inr ⟨box, run, ?_, joined⟩
          rw [mergedRuns]
          exact List.mem_append_left _ merged

theorem exists_carrierBelow {part : Node α} (stands : part.StandsOut) :
    ∀ (nodes : List (Node α)) (eager : Bool), AreAsBuilt nodes → part ∈ partsAll nodes →
      ∃ child ∈ nodes, child.IsAsBuilt ∧ part ∈ child.parts ∧
        ((∃ carrier ∈ (child.combineShapes eager).parts, carrier.Carries part) ∨
          part.kind = .box ∧ ∃ run ∈ mergedRunsAll nodes eager, part ∈ run)
  | [], _, _, inside => absurd inside List.not_mem_nil
  | node :: rest, eager, built, inside => by
      rw [partsAll, List.mem_append] at inside
      rcases inside with here | later
      · refine ⟨node, List.mem_cons_self, built.1.2, here, ?_⟩
        refine (exists_carrier stands node eager built.1.2 here).imp_right fun merged => ?_
        obtain ⟨box, run, found, joined⟩ := merged
        exact ⟨box, run, List.mem_append_left _ found, joined⟩
      · obtain ⟨child, member, childBuilt, deeper, found⟩ :=
          exists_carrierBelow stands rest eager built.2 later
        refine ⟨child, List.mem_cons_of_mem node member, childBuilt, deeper, ?_⟩
        refine found.imp_right fun merged => ?_
        obtain ⟨box, run, inRuns, joined⟩ := merged
        exact ⟨box, run, List.mem_append_right _ inRuns, joined⟩

end

/-! ### Where carriers come from -/

omit [Scalar α] in
/-- A run draws its other nodes as part of the first one, which is a shape then. -/
theorem exists_kind_foldl_absorb (others : List (Node α)) : ∀ node : Node α,
    ∃ kind : NodeKind α, others.foldl absorb node = { node with kind := kind } := by
  induction others with
  | nil =>
      intro node
      obtain ⟨info, children⟩ := node
      exact ⟨info.kind, rfl⟩
  | cons other rest ih =>
      intro node
      obtain ⟨kind, last⟩ := ih (node.absorb other)
      refine ⟨kind, last.trans ?_⟩
      unfold absorb
      split <;> rfl

omit [Scalar α] in
theorem exists_kind_asShape (node : Node α) :
    ∃ kind : NodeKind α, node.asShape = { node with kind := kind } := by
  obtain ⟨info, children⟩ := node
  unfold asShape
  split
  · exact ⟨_, rfl⟩
  · exact ⟨info.kind, rfl⟩

omit [Scalar α] in
/-- After children are merged each of them is a child from before, or a bare shape without
children. -/
theorem mem_of_mem_mergedChildren {eager : Bool} {info : NodeInfo α} {children : List (Node α)}
    (childless : ∀ child ∈ children, child.isPicture = true → child.children = []) {node : Node α}
    (member : node ∈ mergedChildren eager info children) :
    node ∈ children ∨ node.IsBare ∧ node.isShape = true ∧ node.children = [] := by
  unfold mergedChildren at member
  split at member
  · exact Or.inl member
  · rw [mergeSiblings_eq_flatMap, List.mem_flatMap] at member
    obtain ⟨run, found, inside⟩ := member
    have within : ∀ other ∈ run, other ∈ children :=
      fun other among => mem_of_mem_siblingRuns _ _ _ found among
    match run, found, inside, within with
    | [_], _, inside, within => exact Or.inl (within node inside)
    | first :: second :: others, found, inside, within =>
        rcases joins_of_mem_siblingRuns _ _ _ _ found with joined | ⟨_, single⟩
        · have picture (other : Node α) (among : other ∈ first :: second :: others) :
              other.isPicture = true :=
            isPicture_of_isAbsorbable (joined other among).1
          have start := picture first List.mem_cons_self
          have bare := (isBare_of_joins (joined first List.mem_cons_self)).1
          have nothing := childless first (within first List.mem_cons_self) start
          have shape := isShape_foldl_absorb (second :: others) first.asShape
            (asShape_of_picture start).1 fun other among => picture other (List.mem_cons_of_mem _ among)
          obtain ⟨last, merged⟩ := exists_kind_foldl_absorb (second :: others) first.asShape
          obtain ⟨begun, framed⟩ := exists_kind_asShape first
          rw [List.mem_singleton.mp inside]
          refine Or.inr ⟨?_, shape, ?_⟩
          · rw [merged, framed]
            exact bare
          · rw [merged, framed]
            exact nothing
        · cases single

mutual

/-- A node that stands out after the pass is in the place of a part from before. -/
theorem exists_of_carrier {carrier : Node α} (stands : carrier.StandsOut) :
    ∀ (node : Node α) (eager : Bool), node.IsAsBuilt →
      carrier ∈ (node.combineShapes eager).parts → ∃ part ∈ node.parts, carrier.Carries part
  | ⟨info, children⟩, eager, built, inside => by
      have top := carries_combineShapes ⟨info, children⟩ eager
      have below : ∀ child ∈ (combineShapes ⟨info, children⟩ eager).children,
          child ∈ mergedChildren (isEagerBelow info.layer eager) info
            (combineAll children (isEagerBelow info.layer eager)) := by
        rw [combineShapes, mergeChildren_eq]
        rcases collapse_cases ⟨info, mergedChildren (isEagerBelow info.layer eager) info
          (combineAll children (isEagerBelow info.layer eager))⟩ with
          same | ⟨_, _, _, _, _, _, _, collapsed⟩
        · rw [same]
          exact fun _ member => member
        · rw [collapsed]
          exact fun _ absent => absurd absent List.not_mem_nil
      generalize combineShapes ⟨info, children⟩ eager = made at inside top below
      obtain ⟨own, nodes⟩ := made
      rcases Node.mem_parts.mp inside with same | ⟨child, member, deeper⟩
      · exact ⟨_, mem_parts_self _, same ▸ top⟩
      · rcases mem_of_mem_mergedChildren (childless_of_mem_combineAll built.2) (below child member)
          with among | ⟨bare, shape, childless⟩
        · obtain ⟨part, found, carries⟩ := exists_of_carrierBelow stands children _ built.2
            (mem_partsAll.mpr ⟨child, among, deeper⟩)
          rw [parts]
          exact ⟨part, List.mem_cons_of_mem _ found, carries⟩
        · -- Nothing of a merged run stands out.
          obtain ⟨merged, none⟩ := child
          change none = [] at childless
          rw [childless] at deeper
          rw [List.mem_singleton.mp deeper] at stands
          rcases stands.resolve_left (not_not_intro bare) with label | box
          · rw [NodeInfo.isShape, label] at shape
            cases shape
          · rw [NodeInfo.isShape, box] at shape
            cases shape

theorem exists_of_carrierBelow {carrier : Node α} (stands : carrier.StandsOut) :
    ∀ (nodes : List (Node α)) (eager : Bool), AreAsBuilt nodes →
      carrier ∈ partsAll (combineAll nodes eager) → ∃ part ∈ partsAll nodes, carrier.Carries part
  | [], _, _, inside => absurd inside List.not_mem_nil
  | node :: rest, eager, built, inside => by
      rw [combineAll, partsAll, List.mem_append] at inside
      rw [partsAll]
      rcases inside with here | later
      · obtain ⟨part, found, carries⟩ := exists_of_carrier stands node eager built.1.2 here
        exact ⟨part, List.mem_append_left _ found, carries⟩
      · obtain ⟨part, found, carries⟩ := exists_of_carrierBelow stands rest eager built.2 later
        exact ⟨part, List.mem_append_right _ found, carries⟩

end

end Node

end DesignExport
