import DesignExport.Number.Exact
import DesignExport.Proofs.Tree.Placement
set_option autoImplicit false

/-! The shape pass and where it leaves what a tree draws. Leaves keep all frames that
are theirs. They keep nothing but these exactly if no run of neighbours that are
merged begins with a collapsed group. -/

namespace DesignExport

open Compile (Yields)

variable {α : Type}

namespace Node

/-- Neighbours divided into runs, given the run begun. A node that stands alone is a
run of its own. -/
def runs (eager : Bool) (run : List (Node α)) : List (Node α) → List (List (Node α))
  | [] => [run]
  | node :: rest =>
      if node.isAbsorbable eager && !node.isSpecial then runs eager (run ++ [node]) rest
      else run :: [node] :: runs eager [] rest

/-- The runs of the children of a node. A background is a run of its own. -/
def siblingRuns (eager hasBackground : Bool) (children : List (Node α)) : List (List (Node α)) :=
  match hasBackground, children with
  | true, first :: rest => [first] :: runs eager [] rest
  | _, _ => runs eager [] children

/-- Nodes that merge, if there are several, are pictures. -/
def IsRun (run : List (Node α)) : Prop :=
  (∀ node ∈ run, node.isPicture = true) ∨ ∃ node, run = [node]

/-- A run of one node changes nothing. A longer one must not begin in the space of a
collapsed group. -/
def BeginsUnframed (run : List (Node α)) : Prop :=
  match run with
  | first :: _ :: _ => first.frame? = none
  | _ => True

theorem mergeRuns_eq_flatMap (eager : Bool) (run nodes : List (Node α)) :
    mergeRuns eager run nodes = (runs eager run nodes).flatMap mergeRun := by
  induction nodes generalizing run with
  | nil => exact (List.append_nil _).symm
  | cons node rest ih =>
      rw [mergeRuns, runs]
      split
      · exact ih (run ++ [node])
      · rw [List.flatMap_cons, List.flatMap_cons, ih []]
        rfl

theorem flatten_runs (eager : Bool) (run nodes : List (Node α)) :
    (runs eager run nodes).flatten = run ++ nodes := by
  induction nodes generalizing run with
  | nil => rfl
  | cons node rest ih =>
      rw [runs]
      split
      · rw [ih, List.append_assoc]
        rfl
      · rw [List.flatten_cons, List.flatten_cons, ih]
        rfl

theorem isPicture_of_isAbsorbable {node : Node α} {eager : Bool}
    (absorbable : node.isAbsorbable eager = true) : node.isPicture = true := by
  unfold NodeInfo.isAbsorbable at absorbable
  unfold NodeInfo.isPicture
  cases kind : node.kind with
  | shape | box => rfl
  | widgetRoot | group | text => rw [kind] at absorbable; cases absorbable

/-- Special nodes never join a run. -/
def Joins (eager : Bool) (node : Node α) : Prop :=
  node.isAbsorbable eager = true ∧ node.isSpecial = false

theorem joins_of_mem_runs {eager : Bool} {run nodes : List (Node α)}
    (begun : ∀ node ∈ run, Joins eager node) :
    ∀ found ∈ runs eager run nodes,
      (∀ node ∈ found, Joins eager node) ∨ ∃ node, found = [node] := by
  induction nodes generalizing run with
  | nil =>
      intro found member
      rw [runs, List.mem_singleton] at member
      exact Or.inl (member ▸ begun)
  | cons node rest ih =>
      rw [runs]
      split
      case isTrue merges =>
          rw [Bool.and_eq_true, Bool.not_eq_true'] at merges
          apply ih
          intro other member
          rcases List.mem_append.mp member with earlier | last
          · exact begun other earlier
          · rw [List.mem_singleton.mp last]
            exact merges
      case isFalse =>
          intro found member
          rcases List.mem_cons.mp member with same | member
          · exact Or.inl (same ▸ begun)
          · rcases List.mem_cons.mp member with same | later
            · exact Or.inr ⟨node, same⟩
            · exact ih (fun other absent => absurd absent List.not_mem_nil) found later

section Siblings

variable (eager hasBackground : Bool) (children : List (Node α))

theorem mergeSiblings_eq_flatMap :
    mergeSiblings eager hasBackground children =
      (siblingRuns eager hasBackground children).flatMap mergeRun := by
  cases hasBackground with
  | false => exact mergeRuns_eq_flatMap eager [] children
  | true =>
      cases children with
      | nil => rfl
      | cons first rest =>
          change first :: mergeRuns eager [] rest = [first] ++ (runs eager [] rest).flatMap mergeRun
          rw [mergeRuns_eq_flatMap]
          rfl

theorem flatten_siblingRuns : (siblingRuns eager hasBackground children).flatten = children := by
  unfold siblingRuns
  split
  · rw [List.flatten_cons, flatten_runs]
    rfl
  · rw [flatten_runs]
    rfl

theorem joins_of_mem_siblingRuns : ∀ run ∈ siblingRuns eager hasBackground children,
    (∀ node ∈ run, Joins eager node) ∨ ∃ node, run = [node] := by
  have nothing : ∀ node ∈ ([] : List (Node α)), Joins eager node :=
    fun node absent => absurd absent List.not_mem_nil
  unfold siblingRuns
  split
  · intro run member
    rcases List.mem_cons.mp member with same | later
    · exact Or.inr ⟨_, same⟩
    · exact joins_of_mem_runs nothing run later
  · exact joins_of_mem_runs nothing

theorem isRun_of_mem_siblingRuns :
    ∀ run ∈ siblingRuns eager hasBackground children, IsRun run := by
  intro run member
  rcases joins_of_mem_siblingRuns eager hasBackground children run member with joined | single
  · exact Or.inl fun node inside => isPicture_of_isAbsorbable (joined node inside).1
  · exact Or.inr single

theorem mem_of_mem_siblingRuns {run : List (Node α)} {node : Node α}
    (found : run ∈ siblingRuns eager hasBackground children) (member : node ∈ run) :
    node ∈ children := by
  rw [← flatten_siblingRuns eager hasBackground children]
  exact List.mem_flatten_of_mem found member

end Siblings

/-! ### One run -/

theorem mergeRun_ne_nil {run : List (Node α)} (begun : run ≠ []) : mergeRun run ≠ [] := by
  match run with
  | [] => exact absurd rfl begun
  | [_] => exact List.cons_ne_nil _ _
  | _ :: _ :: _ => exact List.cons_ne_nil _ _

theorem deepened_mergeRun {run : List (Node α)} (isRun : IsRun run) :
    Deepened (placementsAll run) (placementsAll (mergeRun run)) := by
  match run with
  | [] => exact Deepened.refl _
  | [_] => exact Deepened.refl _
  | first :: second :: others =>
      rcases isRun with pictures | ⟨node, single⟩
      · rw [placementsAll_mergeRun pictures, placementsAll]
        exact (Deepened.refl _).append (deepened_withinAll _ _)
      · cases single

/-- A run keeps its places exactly if its first node lends no frame to the others. -/
theorem placementsAll_mergeRun_eq_iff {run : List (Node α)} (isRun : IsRun run)
    (drawn : ∀ node ∈ run, node.placements ≠ []) :
    placementsAll (mergeRun run) = placementsAll run ↔ BeginsUnframed run := by
  match run with
  | [] => exact ⟨fun _ => trivial, fun _ => rfl⟩
  | [_] => exact ⟨fun _ => trivial, fun _ => rfl⟩
  | first :: second :: others =>
      rcases isRun with pictures | ⟨node, single⟩
      · have present : placementsAll (second :: others) ≠ [] := by
          intro empty
          rw [placementsAll, List.append_eq_nil_iff] at empty
          exact drawn second (by simp) empty.1
        rw [placementsAll_mergeRun pictures]
        change _ = first.placements ++ placementsAll (second :: others) ↔ _
        rw [List.append_cancel_left_eq]
        exact withinAll_eq_self_iff present
      · cases single

/-! ### All runs of some neighbours -/

theorem placementsAll_mergeSiblings (eager hasBackground : Bool) (children : List (Node α)) :
    placementsAll (mergeSiblings eager hasBackground children) =
      (siblingRuns eager hasBackground children).flatMap (fun run => placementsAll (mergeRun run)) := by
  rw [mergeSiblings_eq_flatMap, placementsAll_flatMap]

theorem placementsAll_siblingRuns (eager hasBackground : Bool) (children : List (Node α)) :
    (siblingRuns eager hasBackground children).flatMap placementsAll = placementsAll children := by
  have whole := placementsAll_flatMap (siblingRuns eager hasBackground children) id
  rw [List.flatMap_id, flatten_siblingRuns] at whole
  exact whole.symm

private theorem deepened_flatMap {before after : List (Node α) → List (Placement α)}
    {runs : List (List (Node α))} (each : ∀ run ∈ runs, Deepened (before run) (after run)) :
    Deepened (runs.flatMap before) (runs.flatMap after) := by
  induction runs with
  | nil => exact Deepened.refl []
  | cons run rest ih =>
      obtain ⟨first, others⟩ := List.forall_mem_cons.mp each
      exact first.append (ih others)

private theorem flatMap_eq_iff {before after : List (Node α) → List (Placement α)}
    {runs : List (List (Node α))}
    (lengths : ∀ run ∈ runs, (after run).length = (before run).length) :
    runs.flatMap after = runs.flatMap before ↔ ∀ run ∈ runs, after run = before run := by
  constructor
  · induction runs with
    | nil => exact fun _ run absent => absurd absent List.not_mem_nil
    | cons run rest ih =>
        intro same
        obtain ⟨first, others⟩ := List.forall_mem_cons.mp lengths
        obtain ⟨head, tail⟩ := List.append_inj same first
        exact List.forall_mem_cons.mpr ⟨head, ih others tail⟩
  · exact fun each => List.flatMap_congr each

theorem deepened_mergeSiblings (eager hasBackground : Bool) (children : List (Node α)) :
    Deepened (placementsAll children)
      (placementsAll (mergeSiblings eager hasBackground children)) := by
  rw [placementsAll_mergeSiblings, ← placementsAll_siblingRuns eager hasBackground children]
  exact deepened_flatMap fun run member =>
    deepened_mergeRun (isRun_of_mem_siblingRuns _ _ _ run member)

theorem placementsAll_mergeSiblings_eq_iff (eager hasBackground : Bool) {children : List (Node α)}
    (drawn : ∀ node ∈ children, node.placements ≠ []) :
    placementsAll (mergeSiblings eager hasBackground children) = placementsAll children ↔
      ∀ run ∈ siblingRuns eager hasBackground children, BeginsUnframed run := by
  rw [placementsAll_mergeSiblings, ← placementsAll_siblingRuns eager hasBackground children]
  rw [flatMap_eq_iff fun run member =>
    (deepened_mergeRun (isRun_of_mem_siblingRuns _ _ _ run member)).length_eq.symm]
  constructor <;> intro each run member
  all_goals
    have isRun := isRun_of_mem_siblingRuns _ _ _ run member
    have drawnRun : ∀ node ∈ run, node.placements ≠ [] :=
      fun node inside => drawn node (mem_of_mem_siblingRuns _ _ _ member inside)
  · exact (placementsAll_mergeRun_eq_iff isRun drawnRun).mp (each run member)
  · exact (placementsAll_mergeRun_eq_iff isRun drawnRun).mpr (each run member)

theorem isEmpty_mergeSiblings (eager hasBackground : Bool) (children : List (Node α)) :
    (mergeSiblings eager hasBackground children).isEmpty = children.isEmpty := by
  cases children with
  | nil => cases hasBackground <;> rfl
  | cons first rest =>
      have present : ¬ mergeSiblings eager hasBackground (first :: rest) = [] := by
        rw [mergeSiblings_eq_flatMap, List.flatMap_eq_nil_iff]
        intro empty
        have flat := flatten_siblingRuns eager hasBackground (first :: rest)
        have inside : first ∈ (siblingRuns eager hasBackground (first :: rest)).flatten := by
          rw [flat]
          exact List.mem_cons_self
        obtain ⟨run, found, member⟩ := List.mem_flatten.mp inside
        exact mergeRun_ne_nil (List.ne_nil_of_mem member) (empty run found)
      rw [List.isEmpty_cons]
      exact List.isEmpty_eq_false_iff.mpr present

/-! ### The pass -/

/-- The children of a node once runs of neighbours are merged. -/
def mergedChildren (eager : Bool) (info : NodeInfo α) (children : List (Node α)) : List (Node α) :=
  if info.layer.arrangement.isStack then children
  else mergeSiblings eager (hasBackground ⟨info, children⟩) children

theorem mergeChildren_eq (eager : Bool) (info : NodeInfo α) (children : List (Node α)) :
    mergeChildren eager ⟨info, children⟩ = ⟨info, mergedChildren eager info children⟩ := by
  unfold mergeChildren mergedChildren
  split <;> rfl

theorem isEmpty_mergedChildren (eager : Bool) (info : NodeInfo α) (children : List (Node α)) :
    (mergedChildren eager info children).isEmpty = children.isEmpty := by
  unfold mergedChildren
  split
  · rfl
  · exact isEmpty_mergeSiblings _ _ _

theorem deepened_mergedChildren (eager : Bool) (info : NodeInfo α) (children : List (Node α)) :
    Deepened (placementsAll children) (placementsAll (mergedChildren eager info children)) := by
  unfold mergedChildren
  split
  · exact Deepened.refl _
  · exact deepened_mergeSiblings _ _ _

theorem placementsAll_mergedChildren_eq_iff (eager : Bool) (info : NodeInfo α)
    {children : List (Node α)} (drawn : ∀ node ∈ children, node.placements ≠ []) :
    placementsAll (mergedChildren eager info children) = placementsAll children ↔
      (info.layer.arrangement.isStack = false →
        ∀ run ∈ siblingRuns eager (hasBackground ⟨info, children⟩) children,
          BeginsUnframed run) := by
  unfold mergedChildren
  cases stacked : info.layer.arrangement.isStack with
  | true => exact ⟨fun _ impossible => absurd impossible (by decide), fun _ => rfl⟩
  | false =>
      rw [if_neg Bool.false_ne_true, placementsAll_mergeSiblings_eq_iff _ _ drawn]
      exact ⟨fun each _ => each, fun each => each rfl⟩

variable [Scalar α]

theorem plain_of_isCollapsible {node : NodeInfo α} (collapsible : node.isCollapsible = true) :
    node.kind = .group .plain := by
  obtain ⟨layer, kind, layout, decorators, mode, params⟩ := node
  cases kind with
  | group inside =>
      cases inside with
      | plain => rfl
      | scroll | instanceOf => simp [NodeInfo.isCollapsible] at collapsible
  | widgetRoot | box | shape | text => simp [NodeInfo.isCollapsible] at collapsible

theorem unmarked_of_isCollapsible {node : NodeInfo α} (collapsible : node.isCollapsible = true) :
    node.layer.isMarkedForExport = false := by
  simp only [NodeInfo.isCollapsible, Bool.and_eq_true, Bool.not_eq_true'] at collapsible
  exact collapsible.1.1.1.1.2

/-- A group and the framed shape in its place draw the same. -/
theorem placements_collapse (node : Node α) : (collapse node).placements = node.placements := by
  unfold collapse
  split
  case h_2 => rfl
  case h_1 child children =>
    split
    case h_2 => rfl
    case h_1 unit shape =>
      split
      case isFalse => rfl
      case isTrue collapses =>
        simp only [Bool.and_eq_true] at collapses
        have plain := plain_of_isCollapsible collapses.1.1.1
        have takes : node.kind.takesChildren = true := by
          rw [plain]
          rfl
        have framed : Node.placements
            { node with kind := .shape (ShapeUnit.framed node.layer unit), children := [] } =
              (ShapeUnit.framed node.layer unit).placements := placements_of_shape rfl
        rw [framed, ShapeUnit.placements_framed, placements_eq node, children]
        change _ = node.place false (child.placements ++ [])
        rw [NodeInfo.place_of_takesChildren takes, List.append_nil, placements_of_shape shape]

theorem isEmpty_combineAll (nodes : List (Node α)) (eager : Bool) :
    (combineAll nodes eager).isEmpty = nodes.isEmpty := by
  cases nodes <;> rfl

/-- What a node draws after the pass, from what its children draw. -/
theorem placements_combineShapes (info : NodeInfo α) (children : List (Node α)) (eager : Bool) :
    (combineShapes ⟨info, children⟩ eager).placements =
      info.place children.isEmpty
        (placementsAll (mergedChildren (isEagerBelow info.layer eager) info
          (combineAll children (isEagerBelow info.layer eager)))) := by
  rw [combineShapes, placements_collapse, mergeChildren_eq, placements, isEmpty_mergedChildren,
    isEmpty_combineAll]

mutual

/-- No leaf is lost or moved past another, and none loses a frame. -/
theorem deepened_combineShapes : ∀ (node : Node α) (eager : Bool),
    Deepened node.placements (node.combineShapes eager).placements
  | ⟨info, children⟩, eager => by
      rw [placements_combineShapes, placements]
      apply NodeInfo.deepened_place
      exact (deepened_combineAll children _).trans (deepened_mergedChildren _ _ _)

theorem deepened_combineAll : ∀ (nodes : List (Node α)) (eager : Bool),
    Deepened (placementsAll nodes) (placementsAll (combineAll nodes eager))
  | [], _ => Deepened.refl []
  | node :: rest, eager =>
      (deepened_combineShapes node eager).append (deepened_combineAll rest eager)

end

mutual

/-- Nowhere in the tree does the pass merge a run that begins with a collapsed group. -/
def RunsBeginUnframed : Node α → Bool → Prop
  | ⟨info, children⟩, eager =>
      let below := isEagerBelow info.layer eager
      let combined := combineAll children below
      AllRunsBeginUnframed children below ∧
        (info.layer.arrangement.isStack = false →
          ∀ run ∈ siblingRuns below (hasBackground ⟨info, combined⟩) combined, BeginsUnframed run)

def AllRunsBeginUnframed : List (Node α) → Bool → Prop
  | [], _ => True
  | node :: rest, eager => RunsBeginUnframed node eager ∧ AllRunsBeginUnframed rest eager

end

/-- The pass leaves every node something to draw. -/
theorem placements_ne_nil_of_mem_combineAll {children : List (Node α)}
    (built : AreAsBuilt children) (eager : Bool) :
    ∀ node ∈ combineAll children eager, node.placements ≠ [] := by
  induction children with
  | nil => exact fun node absent => absurd absent List.not_mem_nil
  | cons child rest ih =>
      obtain ⟨⟨suits, childBuilt⟩, restBuilt⟩ := built
      rw [combineAll, List.forall_mem_cons]
      refine ⟨?_, ih restBuilt⟩
      intro empty
      have lengths := (deepened_combineShapes child eager).length_eq
      rw [empty, List.length_nil] at lengths
      exact placements_ne_nil child suits childBuilt (List.eq_nil_of_length_eq_zero lengths)

mutual

theorem placements_combineShapes_iff_of_built : ∀ (node : Node α) (eager : Bool),
    node.IsAsBuilt →
      ((node.combineShapes eager).placements = node.placements ↔ RunsBeginUnframed node eager)
  | ⟨info, children⟩, eager, ⟨leaf, built⟩ => by
      have content := placementsAll_mergedChildren_iff_of_built info children
        (isEagerBelow info.layer eager) built
      rw [placements_combineShapes, placements, RunsBeginUnframed, ← content]
      cases children with
      | nil =>
          have none : mergedChildren (isEagerBelow info.layer eager) info [] = [] :=
            List.isEmpty_iff.mp (isEmpty_mergedChildren _ info [])
          rw [combineAll, none]
          exact ⟨fun _ => rfl, fun _ => rfl⟩
      | cons first rest =>
          have takes : info.kind.takesChildren = true := by
            cases kind : info.kind.takesChildren with
            | true => rfl
            | false => exact absurd (leaf kind) (List.cons_ne_nil _ _)
          rw [List.isEmpty_cons, NodeInfo.place_of_takesChildren takes,
            NodeInfo.place_of_takesChildren takes]
          exact (withinAll_injective _).eq_iff

theorem placementsAll_mergedChildren_iff_of_built (info : NodeInfo α) :
    ∀ (children : List (Node α)) (eager : Bool), AreAsBuilt children →
      (placementsAll (mergedChildren eager info (combineAll children eager)) =
          placementsAll children ↔
        AllRunsBeginUnframed children eager ∧
          (info.layer.arrangement.isStack = false →
            ∀ run ∈ siblingRuns eager (hasBackground ⟨info, combineAll children eager⟩)
              (combineAll children eager), BeginsUnframed run))
  | children, eager, built => by
      have below := deepened_combineAll children eager
      have above := deepened_mergedChildren eager info (combineAll children eager)
      rw [← placementsAll_combineAll_iff_of_built children eager built,
        ← placementsAll_mergedChildren_eq_iff eager info
          (placements_ne_nil_of_mem_combineAll built eager)]
      constructor
      · intro same
        have kept : placementsAll (combineAll children eager) = placementsAll children :=
          (same ▸ above).antisymm below
        exact ⟨kept, same.trans kept.symm⟩
      · exact fun ⟨kept, merged⟩ => merged.trans kept

theorem placementsAll_combineAll_iff_of_built : ∀ (nodes : List (Node α)) (eager : Bool),
    AreAsBuilt nodes →
      (placementsAll (combineAll nodes eager) = placementsAll nodes ↔
        AllRunsBeginUnframed nodes eager)
  | [], _, _ => ⟨fun _ => trivial, fun _ => rfl⟩
  | node :: rest, eager, ⟨⟨_, nodeBuilt⟩, restBuilt⟩ => by
      rw [AllRunsBeginUnframed, ← placements_combineShapes_iff_of_built node eager nodeBuilt,
        ← placementsAll_combineAll_iff_of_built rest eager restBuilt]
      constructor
      · intro same
        exact List.append_inj same (deepened_combineShapes node eager).length_eq.symm
      · intro ⟨head, tail⟩
        rw [combineAll, placementsAll, placementsAll, head, tail]

end

/-- In the tree of a widget every leaf is drawn under its own transform and those of
its own groups, and under no others, exactly if no run that is merged begins with a
collapsed group. -/
theorem placements_combineShapes_buildRoot_iff (layer : Layer α) (context : Context α)
    (eager : Bool) :
    let root := ((buildRoot layer).run context).1
    ((root.combineShapes eager).placements = root.placements ↔ root.RunsBeginUnframed eager) ∧
      ((root.combineShapes eager).placements.map Placement.transforms =
          root.placements.map Placement.transforms ↔
        root.RunsBeginUnframed eager) := by
  intro root
  have built : root.IsAsBuilt := buildRoot_yields layer context
  have keeps := placements_combineShapes_iff_of_built root eager built
  refine ⟨keeps, ?_, ?_⟩
  · intro same
    apply keeps.mp
    exact ((deepened_combineShapes root eager).eq_of_transforms same.symm).symm
  · intro unframed
    rw [keeps.mpr unframed]

/-- A page with a group of one path, and another path that is drawn over the group. -/
def pathOverGroup : Layer Rat :=
  let path (guid : String) : Layer Rat := Layer.usual guid guid (.path "M0 0L10 10")
  ⟨LayerInfo.usual "home" "Home" .artboard,
    [⟨{ LayerInfo.usual "icon" "Icon" .group with transform := Affine.shift 100 0 },
        [path "inside"]⟩,
      path "over"]⟩

def pathOverGroupRoot : Node Rat :=
  ((buildRoot pathOverGroup).run
    (Context.start (Index.ofDocument ⟨[], [pathOverGroup], ⟨[], []⟩⟩) {} .files)).1

/-- The path over the group is moved along with the group. -/
theorem transforms_pathOverGroupRoot_ne :
    (pathOverGroupRoot.combineShapes false).placements.map Placement.transforms ≠
      pathOverGroupRoot.placements.map Placement.transforms := by
  intro same
  have depths := congrArg (List.map List.length) same
  revert depths
  decide +kernel

end Node

end DesignExport
