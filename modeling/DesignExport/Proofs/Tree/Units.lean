import DesignExport.Proofs.Tree.ShapePass
set_option autoImplicit false

/-! The leaves of a tree in drawing order, and the units that they are drawn in. The shape
pass keeps all leaves, each one once and in its place. -/

namespace DesignExport

section Leaves

variable {α : Type}

mutual

theorem ShapeMember.map_leaf_placements :
    ∀ member : ShapeMember α, member.placements.map (·.leaf) = member.primitives
  | .primitive _ => rfl
  | .nested frame members => by
      rw [ShapeMember.placements, ShapeMember.primitives, ← map_leaf_memberPlacements members]
      exact List.map_map

theorem map_leaf_memberPlacements :
    ∀ members : List (ShapeMember α), (memberPlacements members).map (·.leaf) = memberPrimitives members
  | [] => rfl
  | member :: rest => by
      rw [memberPlacements, memberPrimitives, List.map_append, member.map_leaf_placements,
        map_leaf_memberPlacements rest]

end

theorem map_leaf_withinAll (frame : Option (LayerInfo α)) (placements : List (Placement α)) :
    (withinAll frame placements).map (·.leaf) = placements.map (·.leaf) := by
  cases frame with
  | none => rfl
  | some layer => exact List.map_map

namespace Node

mutual

/-- Boxes, texts, instances, groups without children, and the primitives of shapes. -/
def leaves : Node α → List (LayerInfo α)
  | ⟨info, children⟩ =>
      match info.kind with
      | .shape unit => unit.primitives
      | .widgetRoot => leavesAll children
      | .group .plain | .group (.scroll _) =>
          if children.isEmpty then [info.layer] else leavesAll children
      | .box | .text | .group (.instanceOf _) => [info.layer]

def leavesAll : List (Node α) → List (LayerInfo α)
  | [] => []
  | node :: rest => leaves node ++ leavesAll rest

end

mutual

theorem map_leaf_placements : ∀ node : Node α, node.placements.map (·.leaf) = node.leaves
  | ⟨⟨layer, kind, layout, decorators, mode, params⟩, children⟩ => by
      have inner := map_leaf_placementsAll children
      cases kind with
      | shape unit =>
          exact (map_leaf_withinAll _ _).trans (map_leaf_memberPlacements unit.members)
      | widgetRoot => exact (map_leaf_withinAll (some layer) _).trans inner
      | box | text => rfl
      | group inside =>
          cases inside with
          | instanceOf => rfl
          | plain | scroll =>
              cases children with
              | nil => rfl
              | cons first rest => exact (map_leaf_withinAll (some layer) _).trans inner

theorem map_leaf_placementsAll : ∀ nodes : List (Node α),
    (placementsAll nodes).map (·.leaf) = leavesAll nodes
  | [] => rfl
  | node :: rest => by
      rw [placementsAll, leavesAll, List.map_append, map_leaf_placements node,
        map_leaf_placementsAll rest]

end

/-- The shape pass loses, repeats and reorders no leaf, in any tree and for any choice
of what merges. -/
theorem leaves_combineShapes [Scalar α] (node : Node α) (eager : Bool) :
    (node.combineShapes eager).leaves = node.leaves := by
  rw [← map_leaf_placements node, ← map_leaf_placements (node.combineShapes eager)]
  exact (deepened_combineShapes node eager).leaves_eq.symm

end Node

end Leaves

/-! ### Units

A unit of several
primitives comes from a run of neighbours that is merged, and draws the leaves of that
run; a group that collapses hands its unit on as it is. -/

variable {α : Type}

namespace ShapeUnit

/-- Layers of some kind are never drawn together with others. -/
def Apart (special : LayerInfo α → Prop) (units : List (ShapeUnit α)) : Prop :=
  ∀ unit ∈ units, 2 ≤ unit.primitives.length → ∀ layer ∈ unit.primitives, ¬ special layer

theorem apart_append {special : LayerInfo α → Prop} {first second : List (ShapeUnit α)} :
    Apart special (first ++ second) ↔ Apart special first ∧ Apart special second :=
  List.forall_mem_append

theorem apart_flatMap {special : LayerInfo α → Prop} {β : Type} {items : List β}
    {units : β → List (ShapeUnit α)} :
    Apart special (items.flatMap units) ↔ ∀ item ∈ items, Apart special (units item) := by
  induction items with
  | nil =>
      exact ⟨fun _ _ absent => absurd absent List.not_mem_nil,
        fun _ _ absent => absurd absent List.not_mem_nil⟩
  | cons item rest ih => rw [List.flatMap_cons, apart_append, List.forall_mem_cons, ih]

/-- It matters only what the units draw. -/
theorem apart_congr {special : LayerInfo α → Prop} {first second : List (ShapeUnit α)}
    (same : first.map (·.primitives) = second.map (·.primitives)) :
    Apart special first ↔ Apart special second := by
  have drawn (units : List (ShapeUnit α)) : Apart special units ↔
      ∀ primitives ∈ units.map (·.primitives),
        2 ≤ primitives.length → ∀ layer ∈ primitives, ¬ special layer := by
    rw [List.forall_mem_map]
    rfl
  rw [drawn first, drawn second, same]

theorem primitives_framed (frame : LayerInfo α) (unit : ShapeUnit α) :
    (framed frame unit).primitives = unit.primitives := by
  change memberPrimitives unit.asMembers = memberPrimitives unit.members
  unfold asMembers
  cases unit.frame with
  | none => rfl
  | some own => exact List.append_nil _

end ShapeUnit

namespace Node

open ShapeUnit (Apart apart_append apart_flatMap apart_congr)

mutual

/-- The units of a tree in drawing order. -/
def units : Node α → List (ShapeUnit α)
  | ⟨info, children⟩ =>
      match info.kind with
      | .shape unit => [unit]
      | .widgetRoot | .group .plain | .group (.scroll _) => unitsAll children
      | .box | .text | .group (.instanceOf _) => []

def unitsAll : List (Node α) → List (ShapeUnit α)
  | [] => []
  | node :: rest => units node ++ unitsAll rest

end

theorem unitsAll_append (first second : List (Node α)) :
    unitsAll (first ++ second) = unitsAll first ++ unitsAll second := by
  induction first with
  | nil => rfl
  | cons node rest ih => rw [List.cons_append, unitsAll, unitsAll, ih, List.append_assoc]

theorem unitsAll_flatMap {β : Type} (items : List β) (nodes : β → List (Node α)) :
    unitsAll (items.flatMap nodes) = items.flatMap (fun item => unitsAll (nodes item)) := by
  induction items with
  | nil => rfl
  | cons item rest ih => rw [List.flatMap_cons, List.flatMap_cons, unitsAll_append, ih]

theorem units_of_shape {node : Node α} {unit : ShapeUnit α} (shape : node.kind = .shape unit) :
    node.units = [unit] := by
  obtain ⟨info, children⟩ := node
  change info.kind = _ at shape
  rw [units, shape]

theorem leaves_of_shape {node : Node α} {unit : ShapeUnit α} (shape : node.kind = .shape unit) :
    node.leaves = unit.primitives := by
  obtain ⟨info, children⟩ := node
  change info.kind = _ at shape
  rw [leaves, shape]

theorem units_of_takesChildren {info : NodeInfo α} (takes : info.kind.takesChildren = true)
    (children : List (Node α)) : units ⟨info, children⟩ = unitsAll children := by
  rw [units]
  cases kind : info.kind with
  | widgetRoot => rfl
  | group inside =>
      cases inside with
      | plain | scroll => rfl
      | instanceOf => rw [kind] at takes; cases takes
  | box | shape | text => rw [kind] at takes; cases takes

mutual

theorem mem_leaves_of_mem_units {unit : ShapeUnit α} {layer : LayerInfo α}
    (drawn : layer ∈ unit.primitives) : ∀ node : Node α, unit ∈ node.units → layer ∈ node.leaves
  | ⟨⟨own, kind, layout, decorators, mode, params⟩, children⟩, found => by
      have below := mem_leavesAll_of_mem_unitsAll drawn children
      cases kind with
      | shape inner =>
          rw [List.mem_singleton.mp found] at drawn
          exact drawn
      | widgetRoot => exact below found
      | box | text => cases found
      | group inside =>
          cases inside with
          | instanceOf => cases found
          | plain | scroll =>
              cases children with
              | nil => cases found
              | cons first rest => exact below found

theorem mem_leavesAll_of_mem_unitsAll {unit : ShapeUnit α} {layer : LayerInfo α}
    (drawn : layer ∈ unit.primitives) : ∀ nodes : List (Node α),
    unit ∈ unitsAll nodes → layer ∈ leavesAll nodes
  | [], found => absurd found List.not_mem_nil
  | node :: rest, found => by
      rw [unitsAll, List.mem_append] at found
      rw [leavesAll, List.mem_append]
      rcases found with here | later
      · exact Or.inl (mem_leaves_of_mem_units drawn node here)
      · exact Or.inr (mem_leavesAll_of_mem_unitsAll drawn rest later)

end

/-! ### One run -/

theorem leavesAll_mergeRun {run : List (Node α)} (isRun : IsRun run) :
    leavesAll (mergeRun run) = leavesAll run := by
  rw [← map_leaf_placementsAll, ← map_leaf_placementsAll]
  exact (deepened_mergeRun isRun).leaves_eq.symm

theorem isShape_foldl_absorb (others : List (Node α)) : ∀ node : Node α, node.isShape = true →
    (∀ other ∈ others, other.isPicture = true) → (others.foldl absorb node).isShape = true := by
  induction others with
  | nil => exact fun _ shape _ => shape
  | cons other rest ih =>
      intro node shape pictures
      obtain ⟨picture, pictures⟩ := List.forall_mem_cons.mp pictures
      exact ih _ (absorb_of_shape shape picture).1 pictures

theorem unitsAll_mergeRun {first second : Node α} {others : List (Node α)}
    (pictures : ∀ node ∈ first :: second :: others, node.isPicture = true) :
    ∃ unit : ShapeUnit α, unitsAll (mergeRun (first :: second :: others)) = [unit] ∧
      unit.primitives = leavesAll (first :: second :: others) := by
  obtain ⟨picture, rest⟩ := List.forall_mem_cons.mp pictures
  have shape := isShape_foldl_absorb (second :: others) first.asShape
    (asShape_of_picture picture).1 rest
  rw [← leavesAll_mergeRun (Or.inl pictures)]
  change ∃ unit, units ((second :: others).foldl absorb first.asShape) ++ [] = [unit] ∧
    unit.primitives = leaves ((second :: others).foldl absorb first.asShape) ++ []
  generalize (second :: others).foldl absorb first.asShape = merged at shape ⊢
  cases kind : merged.kind with
  | shape unit =>
      refine ⟨unit, ?_, ?_⟩
      · rw [units_of_shape kind, List.append_nil]
      · rw [leaves_of_shape kind, List.append_nil]
  | widgetRoot | box | group | text =>
      rw [NodeInfo.isShape, kind] at shape
      cases shape

theorem two_le_length_leavesAll {first second : Node α} {others : List (Node α)}
    (drawn : ∀ node ∈ first :: second :: others, node.leaves ≠ []) :
    2 ≤ (leavesAll (first :: second :: others)).length := by
  have one := List.length_pos_iff.mpr (drawn first (by simp))
  have other := List.length_pos_iff.mpr (drawn second (by simp))
  rw [leavesAll, leavesAll, List.length_append, List.length_append]
  omega

variable {special : LayerInfo α → Prop}

/-- Special layers stand apart after a run is merged exactly if they stand apart in it,
and it is one node or has none of them. -/
theorem apart_mergeRun_iff {run : List (Node α)} (isRun : IsRun run)
    (drawn : ∀ node ∈ run, node.leaves ≠ []) :
    Apart special (unitsAll (mergeRun run)) ↔ Apart special (unitsAll run) ∧
      (2 ≤ run.length → ∀ layer ∈ leavesAll run, ¬ special layer) := by
  match run with
  | [] => exact ⟨fun apart => ⟨apart, fun short => absurd short (by simp)⟩, And.left⟩
  | [_] => exact ⟨fun apart => ⟨apart, fun short => absurd short (by simp)⟩, And.left⟩
  | first :: second :: others =>
      rcases isRun with pictures | ⟨node, single⟩
      · -- Each node has a leaf, so the one unit of the run draws at least two.
        obtain ⟨unit, merged, primitives⟩ := unitsAll_mergeRun pictures
        have several : 2 ≤ unit.primitives.length := primitives ▸ two_le_length_leavesAll drawn
        rw [merged, Apart, List.forall_mem_singleton, primitives]
        constructor
        · intro apart
          have none := apart (primitives ▸ several)
          refine ⟨fun other member _ layer inside => ?_, fun _ => none⟩
          exact none layer (mem_leavesAll_of_mem_unitsAll inside _ member)
        · rintro ⟨_, none⟩ _
          exact none (by simp)
      · cases single

/-! ### The pass -/

theorem leaves_ne_nil_of_mem_combineAll [Scalar α] {children : List (Node α)}
    (built : AreAsBuilt children) (eager : Bool) :
    ∀ node ∈ combineAll children eager, node.leaves ≠ [] := by
  intro node member
  rw [← map_leaf_placements node]
  exact List.map_eq_nil_iff.not.mpr (placements_ne_nil_of_mem_combineAll built eager node member)

/-- The runs of several nodes among the children of a node. -/
def mergingRuns (eager : Bool) (info : NodeInfo α) (children : List (Node α)) :
    List (List (Node α)) :=
  if info.layer.arrangement.isStack then []
  else (siblingRuns eager (hasBackground ⟨info, children⟩) children).filter (2 ≤ ·.length)

theorem mem_of_mem_mergingRuns {eager : Bool} {info : NodeInfo α} {children run : List (Node α)}
    (found : run ∈ mergingRuns eager info children) :
    run ∈ siblingRuns eager (hasBackground ⟨info, children⟩) children ∧ 2 ≤ run.length := by
  unfold mergingRuns at found
  split at found
  · exact absurd found List.not_mem_nil
  · obtain ⟨member, several⟩ := List.mem_filter.mp found
    exact ⟨member, of_decide_eq_true several⟩

theorem apart_mergedChildren_iff (eager : Bool) (info : NodeInfo α) {children : List (Node α)}
    (drawn : ∀ node ∈ children, node.leaves ≠ []) :
    Apart special (unitsAll (mergedChildren eager info children)) ↔
      Apart special (unitsAll children) ∧
        ∀ run ∈ mergingRuns eager info children, ∀ layer ∈ leavesAll run, ¬ special layer := by
  unfold mergedChildren mergingRuns
  split
  · exact ⟨fun apart => ⟨apart, fun _ absent => absurd absent List.not_mem_nil⟩, And.left⟩
  · have whole : Apart special (unitsAll children) ↔
        ∀ run ∈ siblingRuns eager (hasBackground ⟨info, children⟩) children,
          Apart special (unitsAll run) := by
      have flat := unitsAll_flatMap (siblingRuns eager (hasBackground ⟨info, children⟩) children) id
      rw [List.flatMap_id, flatten_siblingRuns] at flat
      rw [flat, apart_flatMap]
      rfl
    have each : ∀ run ∈ siblingRuns eager (hasBackground ⟨info, children⟩) children,
        (Apart special (unitsAll (mergeRun run)) ↔ Apart special (unitsAll run) ∧
          (2 ≤ run.length → ∀ layer ∈ leavesAll run, ¬ special layer)) := by
      intro run member
      exact apart_mergeRun_iff (isRun_of_mem_siblingRuns _ _ _ run member)
        fun node inside => drawn node (mem_of_mem_siblingRuns _ _ _ member inside)
    rw [mergeSiblings_eq_flatMap, unitsAll_flatMap, apart_flatMap, whole]
    simp only [List.mem_filter, decide_eq_true_eq]
    constructor
    · intro apart
      refine ⟨fun run member => ((each run member).mp (apart run member)).1, ?_⟩
      exact fun run ⟨member, several⟩ => ((each run member).mp (apart run member)).2 several
    · rintro ⟨apart, none⟩ run member
      exact (each run member).mpr ⟨apart run member, fun several => none run ⟨member, several⟩⟩

theorem apart_units_of_single {info : NodeInfo α}
    (single : ∀ unit, info.kind = .shape unit → unit.primitives.length < 2) :
    Apart special (units ⟨info, []⟩) := by
  intro unit found several
  cases kind : info.kind with
  | shape own =>
      rw [units_of_shape kind, List.mem_singleton] at found
      have short := single own kind
      rw [← found] at short
      omega
  | widgetRoot | box | text => rw [units, kind] at found; cases found
  | group inside => rw [units, kind] at found; cases inside <;> cases found

variable [Scalar α]

/-- A group collapses around a shape that is plain and inline. -/
theorem collapse_cases (node : Node α) :
    node.collapse = node ∨
      ∃ (child : Node α) (unit : ShapeUnit α), node.children = [child] ∧
        child.kind = .shape unit ∧ child.decorators = [] ∧ child.mode = .inline ∧
        node.isCollapsible = true ∧
        node.collapse =
          { node with kind := .shape (ShapeUnit.framed node.layer unit), children := [] } := by
  unfold collapse
  split
  case h_2 => exact Or.inl rfl
  case h_1 child children =>
    split
    case h_2 => exact Or.inl rfl
    case h_1 unit shape =>
      split
      case isFalse => exact Or.inl rfl
      case isTrue collapses =>
        simp only [Bool.and_eq_true, List.isEmpty_iff, decide_eq_true_eq] at collapses
        obtain ⟨⟨⟨collapsible, _⟩, plain⟩, inline⟩ := collapses
        exact Or.inr ⟨child, unit, children, shape, plain, inline, collapsible, rfl⟩

theorem primitives_collapse (node : Node α) :
    node.collapse.units.map (·.primitives) = node.units.map (·.primitives) := by
  rcases collapse_cases node with same | ⟨child, unit, only, shape, -, -, collapsible, collapsed⟩
  · rw [same]
  · have own : node.units = child.units ++ [] := by
      obtain ⟨info, children⟩ := node
      change children = [child] at only
      rw [units_of_takesChildren (by rw [plain_of_isCollapsible collapsible]; rfl), only]
      rfl
    rw [collapsed, own, units_of_shape shape, List.append_nil]
    exact congrArg (fun primitives => [primitives]) (ShapeUnit.primitives_framed node.layer unit)

mutual

/-- The runs of several nodes that the pass merges, in the whole tree. -/
def mergedRuns : Node α → Bool → List (List (Node α))
  | ⟨info, children⟩, eager =>
      let below := isEagerBelow info.layer eager
      mergedRunsAll children below ++ mergingRuns below info (combineAll children below)

def mergedRunsAll : List (Node α) → Bool → List (List (Node α))
  | [], _ => []
  | node :: rest, eager => mergedRuns node eager ++ mergedRunsAll rest eager

end

theorem combineShapes_childless (info : NodeInfo α) (eager : Bool) :
    combineShapes ⟨info, []⟩ eager = ⟨info, []⟩ := by
  have nothing : mergedChildren (isEagerBelow info.layer eager) info [] = [] :=
    List.isEmpty_iff.mp (isEmpty_mergedChildren _ info [])
  rw [combineShapes, combineAll, mergeChildren_eq, nothing]
  rfl

theorem mergedRuns_childless (info : NodeInfo α) (eager : Bool) :
    mergedRuns ⟨info, []⟩ eager = [] := by
  rw [mergedRuns, mergedRunsAll, combineAll, mergingRuns, List.nil_append]
  split <;> rfl

mutual

/-- After the pass layers stand apart exactly if no run that is merged has any of
them. -/
theorem apart_combineShapes_iff : ∀ (node : Node α) (eager : Bool),
    (∀ unit, node.kind = .shape unit → unit.primitives.length < 2) → node.IsAsBuilt →
      (Apart special (node.combineShapes eager).units ↔
        ∀ run ∈ node.mergedRuns eager, ∀ layer ∈ leavesAll run, ¬ special layer)
  | ⟨info, children⟩, eager, single, built => by
      cases takes : info.kind.takesChildren with
      | true =>
          rw [combineShapes, apart_congr (primitives_collapse _), mergeChildren_eq,
            units_of_takesChildren takes,
            apart_mergedChildren_iff _ _ (leaves_ne_nil_of_mem_combineAll built.2 _),
            apart_combineAll_iff children _ built.2, mergedRuns, List.forall_mem_append]
      | false =>
          rw [built.1 takes, combineShapes_childless, mergedRuns_childless]
          exact ⟨fun _ _ absent => absurd absent List.not_mem_nil,
            fun _ => apart_units_of_single single⟩

theorem apart_combineAll_iff : ∀ (nodes : List (Node α)) (eager : Bool), AreAsBuilt nodes →
    (Apart special (unitsAll (combineAll nodes eager)) ↔
      ∀ run ∈ mergedRunsAll nodes eager, ∀ layer ∈ leavesAll run, ¬ special layer)
  | [], _, _ =>
      ⟨fun _ _ absent => absurd absent List.not_mem_nil,
        fun _ _ absent => absurd absent List.not_mem_nil⟩
  | ⟨info, children⟩ :: rest, eager, ⟨⟨suits, built⟩, restBuilt⟩ => by
      have single : ∀ unit, info.kind = .shape unit → unit.primitives.length < 2 := by
        intro unit shape
        have own : unit = ShapeUnit.ofPrimitive info.layer := by
          change info.kind.Suits info.layer at suits
          rw [shape] at suits
          exact suits
        rw [own]
        exact Nat.one_lt_two
      rw [combineAll, unitsAll, apart_append, mergedRunsAll, List.forall_mem_append,
        apart_combineAll_iff rest eager restBuilt,
        apart_combineShapes_iff ⟨info, children⟩ eager single built]

end

end Node

end DesignExport
