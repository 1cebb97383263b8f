import DesignExport.Number.Exact
import DesignExport.Proofs.Tree.Origins
import DesignExport.Proofs.Tree.Units
set_option autoImplicit false

/-! Special layers and the units of the shape pass. A special node never joins the run
of its neighbours. A group that collapses around a responsive shape does, because
neither the collapse nor the run asks what is responsive inside. -/

namespace DesignExport

variable {α : Type}

namespace NodeInfo

/-- Nothing but its layout can make a node special. -/
def IsBare (node : NodeInfo α) : Prop :=
  node.decorators = [] ∧ node.mode = .inline

theorem isSpecial_iff (node : NodeInfo α) :
    node.isSpecial = true ↔ ¬ node.IsBare ∨ node.layout.isResponsive = true := by
  unfold isSpecial IsBare
  simp only [Bool.or_eq_true, Bool.not_eq_true', List.isEmpty_eq_false_iff, decide_eq_true_eq,
    not_and_or]
  tauto

end NodeInfo

namespace Node

open ShapeUnit (Apart)

/-- A picture of a tree was built of a layer, with a property. -/
def HasPicture (root : Node α) (property : NodeInfo α → Prop) (layer : LayerInfo α) : Prop :=
  ∃ part ∈ root.parts, part.isPicture = true ∧ part.layer = layer ∧ property part.toNodeInfo

/-- A layer is drawn, and by no unit together with another one. -/
def StandsApart (root : Node α) (layer : LayerInfo α) : Prop :=
  layer ∈ root.leaves ∧ ∀ unit ∈ root.units, layer ∈ unit.primitives → unit.primitives = [layer]

theorem hasPicture_isSpecial {root : Node α} {layer : LayerInfo α} :
    root.HasPicture (fun info => info.isSpecial = true) layer ↔
      root.HasPicture (fun info => ¬ info.IsBare) layer ∨
        root.HasPicture (fun info => info.layout.isResponsive = true) layer := by
  simp only [HasPicture, NodeInfo.isSpecial_iff, and_or_left, exists_or]

/-! ### Parts of built trees -/

theorem mem_parts_self (node : Node α) : node ∈ node.parts := by
  cases node
  exact List.mem_cons_self

mutual

theorem asBuilt_of_mem_parts {part : Node α} : ∀ {node : Node α}, part ∈ node.parts →
    node.kind.Suits node.layer → node.IsAsBuilt → part.kind.Suits part.layer ∧ part.IsAsBuilt
  | ⟨info, children⟩, inside, suits, built => by
      rw [parts, List.mem_cons] at inside
      rcases inside with same | below
      · rw [same]
        exact ⟨suits, built⟩
      · exact asBuilt_of_mem_partsAll below built.2

theorem asBuilt_of_mem_partsAll {part : Node α} : ∀ {nodes : List (Node α)}, part ∈ partsAll nodes →
    AreAsBuilt nodes → part.kind.Suits part.layer ∧ part.IsAsBuilt
  | [], inside, _ => absurd inside List.not_mem_nil
  | node :: rest, inside, ⟨⟨suits, built⟩, restBuilt⟩ => by
      rw [partsAll, List.mem_append] at inside
      rcases inside with here | later
      · exact asBuilt_of_mem_parts here suits built
      · exact asBuilt_of_mem_partsAll later restBuilt

end

theorem leaves_of_picture {info : NodeInfo α} (picture : info.isPicture = true)
    (suits : info.kind.Suits info.layer) (children : List (Node α)) :
    leaves ⟨info, children⟩ = [info.layer] := by
  rw [leaves]
  cases kind : info.kind with
  | shape unit =>
      rw [kind] at suits
      have own : unit = ShapeUnit.ofPrimitive info.layer := suits
      exact congrArg ShapeUnit.primitives own
  | box => rfl
  | widgetRoot | group | text => simp [NodeInfo.isPicture, kind] at picture

mutual

theorem mem_leaves_of_mem_parts {part : Node α} (picture : part.isPicture = true) :
    ∀ {node : Node α}, part ∈ node.parts →
      (node.kind.takesChildren = false → node.kind.Suits node.layer) → node.IsAsBuilt →
      part.layer ∈ node.leaves
  | ⟨info, children⟩, inside, suits, built => by
      rw [parts, List.mem_cons] at inside
      cases takes : info.kind.takesChildren with
      | false =>
          have childless := built.1 takes
          rw [childless] at inside ⊢
          have same := inside.resolve_right List.not_mem_nil
          rw [same] at picture ⊢
          rw [leaves_of_picture picture (suits takes)]
          exact List.mem_singleton.mpr rfl
      | true =>
          have below : part ∈ partsAll children := by
            refine inside.resolve_left fun same => ?_
            rw [same, NodeInfo.isPicture] at picture
            cases kind : info.kind with
            | shape | box => rw [kind] at takes; cases takes
            | widgetRoot | group | text => rw [kind] at picture; cases picture
          have found := mem_leavesAll_of_mem_partsAll picture below built.2
          rw [leaves]
          cases kind : info.kind with
          | widgetRoot => exact found
          | group inner =>
              cases inner with
              | plain | scroll =>
                  cases children with
                  | nil => exact absurd below List.not_mem_nil
                  | cons first rest => exact found
              | instanceOf => rw [kind] at takes; cases takes
          | box | shape | text => rw [kind] at takes; cases takes

theorem mem_leavesAll_of_mem_partsAll {part : Node α} (picture : part.isPicture = true) :
    ∀ {nodes : List (Node α)}, part ∈ partsAll nodes → AreAsBuilt nodes →
      part.layer ∈ leavesAll nodes
  | [], inside, _ => absurd inside List.not_mem_nil
  | node :: rest, inside, ⟨⟨suits, built⟩, restBuilt⟩ => by
      rw [partsAll, List.mem_append] at inside
      rw [leavesAll, List.mem_append]
      rcases inside with here | later
      · exact Or.inl (mem_leaves_of_mem_parts picture here (fun _ => suits) built)
      · exact Or.inr (mem_leavesAll_of_mem_partsAll picture later restBuilt)

end

/-! ### Nodes of a run -/

theorem mem_leavesAll {layer : LayerInfo α} {nodes : List (Node α)} :
    layer ∈ leavesAll nodes ↔ ∃ node ∈ nodes, layer ∈ node.leaves := by
  induction nodes with
  | nil => simp [leavesAll]
  | cons node rest ih =>
      rw [leavesAll, List.mem_append, ih]
      simp only [List.mem_cons, exists_eq_or_imp]

theorem isBare_of_joins {eager : Bool} {node : Node α} (joins : Joins eager node) :
    node.IsBare ∧ node.layout.isResponsive = false := by
  have ordinary : ¬ node.isSpecial = true := by rw [joins.2]; exact Bool.false_ne_true
  rw [NodeInfo.isSpecial_iff, not_or, not_not, Bool.not_eq_true] at ordinary
  exact ordinary

theorem not_isPicture_of_takesChildren {info : NodeInfo α} (takes : info.kind.takesChildren = true) :
    info.isPicture = false := by
  unfold NodeInfo.isPicture
  cases kind : info.kind with
  | widgetRoot | group | text => rfl
  | box | shape => rw [kind] at takes; cases takes

/-- No layer of some kind is inside a picture that is bare or comes from a group. -/
def IsClear (flagged : LayerInfo α → Prop) (node : Node α) : Prop :=
  node.isPicture = true → (node.frame? = none → node.IsBare) →
    ∀ layer ∈ node.leaves, ¬ flagged layer

variable {flagged : LayerInfo α → Prop}

theorem isClear_mergedChildren (eager : Bool) (info : NodeInfo α) {children : List (Node α)}
    (clear : ∀ node ∈ children, node.IsClear flagged) :
    ∀ node ∈ mergedChildren eager info children, node.IsClear flagged := by
  unfold mergedChildren
  split
  · exact clear
  · rw [mergeSiblings_eq_flatMap]
    intro node member
    obtain ⟨run, found, inside⟩ := List.mem_flatMap.mp member
    have below : ∀ other ∈ run, other ∈ children :=
      fun other among => mem_of_mem_siblingRuns _ _ _ found among
    match run with
    | [] => exact absurd inside List.not_mem_nil
    | [single] => exact clear node (below node inside)
    | first :: second :: others =>
        rcases joins_of_mem_siblingRuns _ _ _ _ found with joined | ⟨single, one⟩
        · intro _ _ layer drawn
          have merged := leavesAll_mergeRun (isRun_of_mem_siblingRuns _ _ _ _ found)
          have among : layer ∈ leavesAll (first :: second :: others) := by
            rw [← merged]
            exact mem_leavesAll.mpr ⟨node, inside, drawn⟩
          obtain ⟨other, member, held⟩ := mem_leavesAll.mp among
          have joins := joined other member
          exact clear other (below other member) (isPicture_of_isAbsorbable joins.1)
            (fun _ => (isBare_of_joins joins).1) layer held
        · cases one

variable [Scalar α]

/-- What the pass leaves of a node is the node itself, unless it is a collapsed group. -/
theorem combineShapes_of_unframed {info : NodeInfo α} {children : List (Node α)} {eager : Bool}
    (built : IsAsBuilt ⟨info, children⟩)
    (picture : (combineShapes ⟨info, children⟩ eager).isPicture = true)
    (unframed : (combineShapes ⟨info, children⟩ eager).frame? = none) :
    combineShapes ⟨info, children⟩ eager = ⟨info, []⟩ ∧ info.isPicture = true := by
  cases takes : info.kind.takesChildren with
  | false =>
      rw [built.1 takes, combineShapes_childless] at picture ⊢
      exact ⟨rfl, picture⟩
  | true =>
      rw [combineShapes] at picture unframed
      rcases collapse_cases (mergeChildren (isEagerBelow info.layer eager)
          ⟨info, combineAll children (isEagerBelow info.layer eager)⟩) with
        same | ⟨child, unit, -, -, -, -, -, collapsed⟩
      · rw [same, mergeChildren_eq, not_isPicture_of_takesChildren takes] at picture
        cases picture
      · rw [collapsed] at unframed
        cases unframed

theorem isClear_collapse {info : NodeInfo α} {children : List (Node α)}
    (takes : info.kind.takesChildren = true) (clear : ∀ node ∈ children, node.IsClear flagged) :
    (collapse ⟨info, children⟩).IsClear flagged := by
  rcases collapse_cases ⟨info, children⟩ with
    same | ⟨child, unit, only, shape, undecorated, inline, -, collapsed⟩
  · rw [same]
    intro picture
    rw [not_isPicture_of_takesChildren takes] at picture
    cases picture
  · intro _ _ layer drawn
    change children = [child] at only
    rw [collapsed, leaves_of_shape rfl, ShapeUnit.primitives_framed, ← leaves_of_shape shape] at drawn
    have picture : child.isPicture = true := by rw [NodeInfo.isPicture, shape]
    exact clear child (by rw [only]; exact List.mem_singleton.mpr rfl) picture
      (fun _ => ⟨undecorated, inline⟩) layer drawn

mutual

/-- If the bare pictures of a tree are not flagged, the pictures that the pass makes of
it are clear. -/
theorem isClear_combineShapes : ∀ (node : Node α) (eager : Bool),
    node.kind.Suits node.layer → node.IsAsBuilt →
    (∀ part ∈ node.parts, part.isPicture = true → part.IsBare → ¬ flagged part.layer) →
    (node.combineShapes eager).IsClear flagged
  | ⟨info, children⟩, eager, suits, built, bare => by
      cases takes : info.kind.takesChildren with
      | false =>
          rw [built.1 takes] at bare ⊢
          rw [combineShapes_childless]
          -- Shapes have no frame when they are built, so the picture is bare.
          intro picture clear layer drawn
          have unframed : info.frame? = none := by
            rw [NodeInfo.frame?]
            cases kind : info.kind with
            | shape unit =>
                have own : info.kind.Suits info.layer := suits
                rw [kind] at own
                exact congrArg ShapeUnit.frame own
            | widgetRoot | box | group | text => rfl
          rw [leaves_of_picture picture suits, List.mem_singleton] at drawn
          rw [drawn]
          exact bare _ List.mem_cons_self picture (clear unframed)
      | true =>
          rw [combineShapes, mergeChildren_eq]
          apply isClear_collapse takes
          apply isClear_mergedChildren
          apply isClear_combineAll children _ built.2
          exact fun part inside => bare part (List.mem_cons_of_mem _ inside)

theorem isClear_combineAll : ∀ (nodes : List (Node α)) (eager : Bool), AreAsBuilt nodes →
    (∀ part ∈ partsAll nodes, part.isPicture = true → part.IsBare → ¬ flagged part.layer) →
    ∀ node ∈ combineAll nodes eager, node.IsClear flagged
  | [], _, _, _ => fun _ absent => absurd absent List.not_mem_nil
  | node :: rest, eager, ⟨⟨suits, built⟩, restBuilt⟩, bare => by
      rw [combineAll, List.forall_mem_cons]
      refine ⟨isClear_combineShapes node eager suits built fun part inside => ?_,
        isClear_combineAll rest eager restBuilt fun part inside => ?_⟩
      · exact bare part (List.mem_append_left _ inside)
      · exact bare part (List.mem_append_right _ inside)

end

/-- What the pass makes of a part of a tree, as it joins a run. -/
structure JoinsFrom (parts : List (Node α)) (node : Node α) : Prop where
  exists_part : ∃ part ∈ parts, part.kind.Suits part.layer ∧ part.IsAsBuilt ∧
    ∃ below : Bool, node = part.combineShapes below
  joins : ∃ eager : Bool, Joins eager node

theorem JoinsFrom.mono {fewer more : List (Node α)} {node : Node α} (joins : JoinsFrom fewer node)
    (subset : ∀ part ∈ fewer, part ∈ more) : JoinsFrom more node := by
  obtain ⟨⟨part, inside, rest⟩, eager⟩ := joins
  exact ⟨⟨part, subset part inside, rest⟩, eager⟩

theorem exists_of_mem_combineAll {node : Node α} {eager : Bool} : ∀ {nodes : List (Node α)},
    node ∈ combineAll nodes eager → ∃ child ∈ nodes, node = child.combineShapes eager
  | [], absent => absurd absent List.not_mem_nil
  | child :: rest, member => by
      rw [combineAll, List.mem_cons] at member
      rcases member with same | later
      · exact ⟨child, List.mem_cons_self, same⟩
      · obtain ⟨found, among, same⟩ := exists_of_mem_combineAll later
        exact ⟨found, List.mem_cons_of_mem _ among, same⟩

mutual

theorem joinsFrom_of_mem_mergedRuns {run : List (Node α)} : ∀ {node : Node α} {eager : Bool},
    node.IsAsBuilt → run ∈ node.mergedRuns eager → ∀ member ∈ run, JoinsFrom node.parts member
  | ⟨info, children⟩, eager, built, found => by
      intro member inside
      have deeper : ∀ part ∈ partsAll children, part ∈ parts ⟨info, children⟩ :=
        fun part among => List.mem_cons_of_mem _ among
      rw [mergedRuns, List.mem_append] at found
      rcases found with below | here
      · exact (joinsFrom_of_mem_mergedRunsAll built.2 below member inside).mono deeper
      · obtain ⟨among, several⟩ := mem_of_mem_mergingRuns here
        rcases joins_of_mem_siblingRuns _ _ _ run among with joined | ⟨single, one⟩
        · refine ⟨?_, _, joined member inside⟩
          obtain ⟨child, held, same⟩ :=
            exists_of_mem_combineAll (mem_of_mem_siblingRuns _ _ _ among inside)
          have part : child ∈ partsAll children := mem_partsAll.mpr ⟨child, held, mem_parts_self child⟩
          obtain ⟨suits, childBuilt⟩ := asBuilt_of_mem_partsAll part built.2
          exact ⟨child, deeper child part, suits, childBuilt, _, same⟩
        · rw [one] at several
          exact absurd several (by simp)

theorem joinsFrom_of_mem_mergedRunsAll {run : List (Node α)} : ∀ {nodes : List (Node α)} {eager : Bool},
    AreAsBuilt nodes → run ∈ mergedRunsAll nodes eager →
    ∀ member ∈ run, JoinsFrom (partsAll nodes) member
  | [], _, _, absent => absurd absent List.not_mem_nil
  | node :: rest, eager, ⟨⟨_, built⟩, restBuilt⟩, found => by
      intro member inside
      rw [mergedRunsAll, List.mem_append] at found
      rcases found with here | later
      · exact (joinsFrom_of_mem_mergedRuns built here member inside).mono
          fun part among => List.mem_append_left _ among
      · exact (joinsFrom_of_mem_mergedRunsAll restBuilt later member inside).mono
          fun part among => List.mem_append_right _ among

end

/-! ### The tree of a widget -/

/-- Pictures of the same layer are special for the same reasons. -/
def PicturesAgree (root : Node α) : Prop :=
  ∀ first ∈ root.parts, ∀ second ∈ root.parts, first.isPicture = true → second.isPicture = true →
    first.layer = second.layer →
    (first.IsBare ↔ second.IsBare) ∧ first.layout.isResponsive = second.layout.isResponsive

theorem picturesAgree_buildRoot (layer : Layer α) (context : Context α) :
    PicturesAgree ((buildRoot layer).run context).1 := by
  have decided := buildRoot_isDecided context layer
  have own : ((buildRoot layer).run context).1.isPicture = false := rfl
  generalize ((buildRoot layer).run context).1 = root at decided own ⊢
  have each : ∀ part ∈ root.parts, part.isPicture = true → part.IsDecided context := by
    obtain ⟨info, children⟩ := root
    intro part inside picture
    rcases mem_parts.mp inside with same | ⟨child, member, deeper⟩
    · rw [same, own] at picture
      cases picture
    · exact decided child member part deeper
  intro first here second there one other layers
  obtain ⟨modes, layouts, decorators⟩ :=
    (each first here one).same (each second there other) layers
  rw [NodeInfo.IsBare, NodeInfo.IsBare, modes, layouts, decorators]
  exact ⟨Iff.rfl, rfl⟩

section Runs

variable {root node : Node α} (agree : root.PicturesAgree) (joins : JoinsFrom root.parts node)

include agree joins

/-- Decorated and non-inline layers are in no run. -/
theorem isBare_of_mem_leaves {layer : LayerInfo α} (drawn : layer ∈ node.leaves) :
    ¬ root.HasPicture (fun info => ¬ info.IsBare) layer := by
  obtain ⟨⟨part, inside, suits, built, below, same⟩, eager, joined⟩ := joins
  have clear : node.IsClear (root.HasPicture (fun info => ¬ info.IsBare)) := by
    rw [same]
    apply isClear_combineShapes part below suits built
    -- The layer may be that of several pictures, but these are special for the same reasons.
    rintro deeper within picture bare ⟨other, among, another, layers, unlike⟩
    have alike := agree deeper (mem_parts_trans inside within) other among picture another layers.symm
    exact unlike (alike.1.mp bare)
  exact clear (isPicture_of_isAbsorbable joined.1) (fun _ => (isBare_of_joins joined).1) layer drawn

/-- Responsive layers are in a run only inside collapsed groups. -/
theorem not_responsive_of_unframed (unframed : node.frame? = none) {layer : LayerInfo α}
    (drawn : layer ∈ node.leaves) :
    ¬ root.HasPicture (fun info => info.layout.isResponsive = true) layer := by
  obtain ⟨⟨⟨info, children⟩, inside, suits, built, below, same⟩, eager, joined⟩ := joins
  have ordinary := (isBare_of_joins joined).2
  have picture := isPicture_of_isAbsorbable joined.1
  rw [same] at unframed picture drawn ordinary
  obtain ⟨whole, own⟩ := combineShapes_of_unframed built picture unframed
  rw [whole] at drawn ordinary
  rw [leaves_of_picture own suits, List.mem_singleton] at drawn
  rintro ⟨other, among, another, layers, responsive⟩
  have alike := agree ⟨info, children⟩ inside other among own another (drawn.symm.trans layers.symm)
  rw [← alike.2] at responsive
  rw [ordinary] at responsive
  cases responsive

end Runs

theorem standsApart_iff_apart {root : Node α} (eager : Bool) (built : root.IsAsBuilt)
    (takes : root.kind.takesChildren = true) (property : NodeInfo α → Prop) :
    (∀ layer, root.HasPicture property layer → (root.combineShapes eager).StandsApart layer) ↔
      Apart (root.HasPicture property) (root.combineShapes eager).units := by
  constructor
  · intro apart unit found several layer inside special
    rw [(apart layer special).2 unit found inside] at several
    exact absurd several (by simp)
  · rintro apart layer ⟨part, among, picture, rfl, holds⟩
    refine ⟨?_, fun unit found inside => ?_⟩
    · rw [leaves_combineShapes]
      refine mem_leaves_of_mem_parts picture among (fun none => ?_) built
      rw [takes] at none
      cases none
    · have few : ¬ 2 ≤ unit.primitives.length := fun several =>
        apart unit found several part.layer inside ⟨part, among, picture, rfl, holds⟩
      match drawn : unit.primitives with
      | [] => rw [drawn] at inside; exact absurd inside List.not_mem_nil
      | [single] => rw [drawn, List.mem_singleton] at inside; rw [inside]
      | first :: second :: others =>
          rw [drawn] at few
          exact absurd (by simp) few

/-- In the tree of a widget, for any choice of what merges, decorated and non-inline
layers always have a unit or a box of their own. All special layers have one exactly
if no collapsed group with a responsive layer inside is merged with its neighbours. -/
theorem standsApart_combineShapes_buildRoot_iff (layer : Layer α) (context : Context α)
    (eager : Bool) :
    let root := ((buildRoot layer).run context).1
    (∀ picture, root.HasPicture (fun info => info.decorators ≠ [] ∨ info.mode ≠ .inline) picture →
        (root.combineShapes eager).StandsApart picture) ∧
      ((∀ picture, root.HasPicture (fun info => info.isSpecial = true) picture →
          (root.combineShapes eager).StandsApart picture) ↔
        ∀ run ∈ root.mergedRuns eager, ∀ node ∈ run, node.frame? ≠ none →
          ∀ picture ∈ node.leaves,
            ¬ root.HasPicture (fun info => info.layout.isResponsive = true) picture) := by
  intro root
  have built : root.IsAsBuilt := buildRoot_yields layer context
  have takes : root.kind.takesChildren = true := rfl
  have agree : root.PicturesAgree := picturesAgree_buildRoot layer context
  have single : ∀ unit, root.kind = .shape unit → unit.primitives.length < 2 := by
    intro unit impossible
    cases impossible
  have joins : ∀ run ∈ root.mergedRuns eager, ∀ node ∈ run, JoinsFrom root.parts node :=
    fun run found => joinsFrom_of_mem_mergedRuns built found
  constructor
  · have bare : ∀ info : NodeInfo α,
        (info.decorators ≠ [] ∨ info.mode ≠ .inline) = ¬ info.IsBare := by
      intro info
      rw [NodeInfo.IsBare, not_and_or]
    simp only [bare]
    rw [standsApart_iff_apart eager built takes, apart_combineShapes_iff root eager single built]
    intro run found picture drawn
    obtain ⟨node, member, held⟩ := mem_leavesAll.mp drawn
    exact isBare_of_mem_leaves agree (joins run found node member) held
  · rw [standsApart_iff_apart eager built takes, apart_combineShapes_iff root eager single built]
    constructor
    · intro ordinary run found node member _ picture held responsive
      apply ordinary run found picture (mem_leavesAll.mpr ⟨node, member, held⟩)
      exact hasPicture_isSpecial.mpr (Or.inr responsive)
    · -- Nodes without a frame are as they were built, and what was special then is in no run.
      intro unresponsive run found picture drawn special
      obtain ⟨node, member, held⟩ := mem_leavesAll.mp drawn
      have joined := joins run found node member
      rcases hasPicture_isSpecial.mp special with unlike | responsive
      · exact isBare_of_mem_leaves agree joined held unlike
      · by_cases unframed : node.frame? = none
        · exact not_responsive_of_unframed agree joined unframed held responsive
        · exact unresponsive run found node member unframed picture held responsive

/-- A path that keeps its distances from all edges. -/
def stretched : LayerInfo Rat :=
  { LayerInfo.usual "inside" "inside" (.path "M0 0L10 10") with
    arrangement := { Arrangement.plain with
      constraints := some { left := true, right := true, top := true, bottom := true } } }

/-- A page with a group of one responsive path, and another path over the group. -/
def pathOverResponsive : Layer Rat :=
  ⟨LayerInfo.usual "home" "Home" .artboard,
    [⟨LayerInfo.usual "icon" "Icon" .group, [⟨stretched, []⟩]⟩,
      Layer.usual "over" "over" (.path "M0 0L10 10")]⟩

def pathOverResponsiveRoot : Node Rat :=
  ((buildRoot pathOverResponsive).run
    (Context.start (Index.ofDocument ⟨[], [pathOverResponsive], ⟨[], []⟩⟩) {} .files)).1

/-- The group collapses, and the responsive path is merged with the one over it. -/
theorem not_standsApart_stretched :
    pathOverResponsiveRoot.HasPicture (fun info => info.isSpecial = true) stretched ∧
      ¬ (pathOverResponsiveRoot.combineShapes false).StandsApart stretched := by
  constructor
  · have built : pathOverResponsiveRoot.parts.map
        (fun part => (part.layer, part.isPicture, part.isSpecial)) =
        [(pathOverResponsive.toLayerInfo, false, false),
          (LayerInfo.usual "icon" "Icon" .group, false, false), (stretched, true, true),
          (LayerInfo.usual "over" "over" (.path "M0 0L10 10"), true, false)] := rfl
    have found : (stretched, true, true) ∈ pathOverResponsiveRoot.parts.map
        (fun part => (part.layer, part.isPicture, part.isSpecial)) := by
      rw [built]
      simp
    obtain ⟨part, inside, same⟩ := List.mem_map.mp found
    simp only [Prod.mk.injEq] at same
    exact ⟨part, inside, same.2.1, same.1, same.2.2⟩
  · rintro ⟨_, apart⟩
    have guids : (pathOverResponsiveRoot.combineShapes false).units.map
        (fun unit => unit.primitives.map (·.guid)) = [["inside", "over"]] := by decide +kernel
    obtain ⟨unit, found, drawn⟩ := List.mem_map.mp (guids ▸ List.mem_singleton.mpr rfl)
    obtain ⟨first, member, named⟩ : ∃ first ∈ unit.primitives, first.guid = "inside" :=
      List.mem_map.mp (drawn ▸ List.mem_cons_self)
    have layers : pathOverResponsiveRoot.leaves =
        [stretched, LayerInfo.usual "over" "over" (.path "M0 0L10 10")] := rfl
    have leaf := mem_leaves_of_mem_units member _ found
    rw [leaves_combineShapes, layers, List.mem_pair] at leaf
    rcases leaf with same | same
    · rw [apart unit found (same ▸ member)] at drawn
      cases drawn
    · rw [same] at named
      exact absurd named (by decide)

end Node

end DesignExport
