import DesignExport.Proofs.Tree.Units
set_option autoImplicit false

/-! What combining shapes eagerly changes. The pass with boxes and the pass without them
come to the same tree exactly if no run that is merged has a box in it. Otherwise the
trees differ in the number of boxes that keep a widget of their own. -/

namespace DesignExport

variable {α : Type}

namespace NodeInfo

def isBox (node : NodeInfo α) : Bool :=
  match node.kind with
  | .box => true
  | _ => false

theorem isBox_of_box {node : NodeInfo α} (box : node.kind = .box) : node.isBox = true := by
  rw [isBox, box]

/-- Below such a layer boxes merge whatever the layers above it ask for. -/
def isEagerItself (node : NodeInfo α) : Bool :=
  node.layer.flagProperty? .combineShapes = some true

end NodeInfo

namespace Node

/-! ### Boxes -/

mutual

/-- How many boxes have a widget of their own. -/
def boxCount : Node α → Nat
  | ⟨info, children⟩ =>
      match info.kind with
      | .box => 1
      | .widgetRoot | .group .plain | .group (.scroll _) => boxCountAll children
      | _ => 0

def boxCountAll : List (Node α) → Nat
  | [] => 0
  | node :: rest => boxCount node + boxCountAll rest

end

theorem boxCountAll_append (first second : List (Node α)) :
    boxCountAll (first ++ second) = boxCountAll first + boxCountAll second := by
  induction first with
  | nil => exact (Nat.zero_add _).symm
  | cons node rest ih => rw [List.cons_append, boxCountAll, boxCountAll, ih, Nat.add_assoc]

theorem boxCount_of_box {node : Node α} (box : node.isBox = true) : node.boxCount = 1 := by
  obtain ⟨info, children⟩ := node
  change info.isBox = true at box
  unfold NodeInfo.isBox at box
  split at box
  case h_1 kind => rw [boxCount, kind]
  case h_2 => cases box

theorem boxCount_of_shape {node : Node α} (shape : node.isShape = true) : node.boxCount = 0 := by
  obtain ⟨info, children⟩ := node
  change info.isShape = true at shape
  unfold NodeInfo.isShape at shape
  split at shape
  case h_1 unit kind => rw [boxCount, kind]
  case h_2 => cases shape

theorem boxCount_of_takesChildren {info : NodeInfo α} (takes : info.kind.takesChildren = true)
    (children : List (Node α)) : boxCount ⟨info, children⟩ = boxCountAll children := by
  rw [boxCount]
  cases kind : info.kind with
  | widgetRoot => rfl
  | group inside =>
      rw [kind] at takes
      cases inside with
      | plain | scroll => rfl
      | instanceOf => cases takes
  | box | shape | text =>
      rw [kind] at takes
      cases takes

theorem boxCountAll_pos {node : Node α} : ∀ {nodes : List (Node α)}, node ∈ nodes →
    node.isBox = true → 0 < boxCountAll nodes
  | first :: rest, member, box => by
      rw [boxCountAll]
      rcases List.mem_cons.mp member with here | later
      · rw [← here, boxCount_of_box box]
        exact Nat.lt_of_lt_of_le Nat.zero_lt_one (Nat.le_add_right _ _)
      · exact Nat.lt_of_lt_of_le (boxCountAll_pos later box) (Nat.le_add_left _ _)

/-- Of several pictures that are merged no box is left. -/
theorem boxCountAll_mergeRun_of_several {first second : Node α} {others : List (Node α)}
    (pictures : ∀ node ∈ first :: second :: others, node.isPicture = true) :
    boxCountAll (mergeRun (first :: second :: others)) = 0 := by
  obtain ⟨picture, rest⟩ := List.forall_mem_cons.mp pictures
  have shape : ((second :: others).foldl absorb first.asShape).isShape = true :=
    isShape_foldl_absorb _ _ (asShape_of_picture picture).1 rest
  change boxCount ((second :: others).foldl absorb first.asShape) + 0 = 0
  rw [boxCount_of_shape shape]

theorem boxCountAll_of_noBoxes : ∀ {run : List (Node α)}, (∀ node ∈ run, node.isPicture = true) →
    (∀ node ∈ run, node.isBox = false) → boxCountAll run = 0
  | [], _, _ => rfl
  | node :: rest, pictures, noBoxes => by
      obtain ⟨picture, pictures⟩ := List.forall_mem_cons.mp pictures
      obtain ⟨noBox, noBoxes⟩ := List.forall_mem_cons.mp noBoxes
      have shape : node.isShape = true := by
        unfold NodeInfo.isPicture at picture
        unfold NodeInfo.isBox at noBox
        unfold NodeInfo.isShape
        cases kind : node.kind with
        | shape unit => rfl
        | box =>
            rw [kind] at noBox
            cases noBox
        | widgetRoot | group | text =>
            rw [kind] at picture
            cases picture
      rw [boxCountAll, boxCount_of_shape shape, boxCountAll_of_noBoxes pictures noBoxes]

/-- A run is merged without a box in it. -/
def Spares (run : List (Node α)) : Prop :=
  2 ≤ run.length → ∀ node ∈ run, node.isBox = false

/-- Merging takes boxes away from the runs that have some, and only from these. -/
theorem boxCountAll_mergeRun {run : List (Node α)} (isRun : IsRun run) :
    (Spares run → boxCountAll (mergeRun run) = boxCountAll run) ∧
      (¬ Spares run → boxCountAll (mergeRun run) < boxCountAll run) := by
  match run with
  | [] =>
      exact ⟨fun _ => rfl,
        fun merges => absurd (fun several => absurd several (Nat.not_succ_le_zero 1)) merges⟩
  | [_] =>
      exact ⟨fun _ => rfl,
        fun merges => absurd (fun several => absurd several (Nat.not_succ_le_self 1)) merges⟩
  | first :: second :: others =>
      have pictures : ∀ node ∈ first :: second :: others, node.isPicture = true := by
        rcases isRun with pictures | ⟨node, single⟩
        · exact pictures
        · cases single
      have several : 2 ≤ (first :: second :: others).length :=
        Nat.succ_le_succ (Nat.succ_le_succ (Nat.zero_le _))
      rw [boxCountAll_mergeRun_of_several pictures]
      constructor
      · intro spares
        exact (boxCountAll_of_noBoxes pictures (spares several)).symm
      · intro merges
        rw [Spares] at merges
        push Not at merges
        obtain ⟨-, node, member, box⟩ := merges
        exact boxCountAll_pos member (Bool.of_not_eq_false box)

/-! ### Runs with and without boxes -/

/-- What stays out of the runs with boxes stays out of those without them. -/
theorem not_joins_of_not_joins {node : Node α}
    (alone : (node.isAbsorbable true && !node.isSpecial) = false) :
    (node.isAbsorbable false && !node.isSpecial) = false := by
  refine Bool.eq_false_iff.mpr fun joins => ?_
  obtain ⟨absorbable, plain⟩ := Bool.and_eq_true_iff.mp joins
  rw [plain, Bool.and_true] at alone
  unfold NodeInfo.isAbsorbable at absorbable alone
  split at absorbable
  case h_1 kind => rw [kind] at alone; cases alone
  case h_2 => cases absorbable
  case h_3 => cases absorbable

/-- A box does not join a run of its own accord. -/
theorem not_joins_of_box {node : Node α} (box : node.isBox = true) :
    (node.isAbsorbable false && !node.isSpecial) = false := by
  unfold NodeInfo.isBox at box
  split at box
  case h_1 kind => rw [NodeInfo.isAbsorbable, kind]; rfl
  case h_2 => cases box

theorem joins_of_not_box {node : Node α} (noBox : node.isBox = false) :
    (node.isAbsorbable true && !node.isSpecial) = (node.isAbsorbable false && !node.isSpecial) := by
  unfold NodeInfo.isAbsorbable
  split
  case h_1 => rfl
  case h_2 box => rw [NodeInfo.isBox_of_box box] at noBox; cases noBox
  case h_3 => rfl

/-- No run that is merged has a box in it. -/
def SparesBoxes (runs : List (List (Node α))) : Prop :=
  ∀ run ∈ runs, Spares run

theorem exists_extension_mem_runs (eager : Bool) (run nodes : List (Node α)) :
    ∃ more, run ++ more ∈ runs eager run nodes := by
  induction nodes generalizing run with
  | nil => exact ⟨[], by rw [List.append_nil]; exact List.mem_cons_self⟩
  | cons node rest ih =>
      rw [runs]
      split
      · obtain ⟨more, found⟩ := ih (run ++ [node])
        rw [List.append_assoc] at found
        exact ⟨[node] ++ more, found⟩
      · exact ⟨[], by rw [List.append_nil]; exact List.mem_cons_self⟩

/-- A box that joins a run stays in it to the end. -/
theorem false_of_sparesBoxes {run nodes : List (Node α)} (spares : SparesBoxes (runs true run nodes))
    (several : 2 ≤ run.length) {box : Node α} (member : box ∈ run) (isBox : box.isBox = true) :
    False := by
  obtain ⟨more, found⟩ := exists_extension_mem_runs true run nodes
  have long : 2 ≤ (run ++ more).length := by
    rw [List.length_append]
    exact Nat.le_add_right_of_le several
  have noBox := spares _ found long box (List.mem_append_left more member)
  rw [isBox] at noBox
  cases noBox

theorem SparesBoxes.rest {node : Node α} {run rest : List (Node α)}
    (spares : SparesBoxes (runs true run (node :: rest)))
    (alone : (node.isAbsorbable true && !node.isSpecial) = false) :
    SparesBoxes (runs true [] rest) := by
  rw [runs, alone] at spares
  exact fun found member => spares found (List.mem_cons_of_mem _ (List.mem_cons_of_mem _ member))

/-- The induction is on the nodes to come. The run begun holds either no box or nothing
but a box; in the second case it ends before the next node, and without boxes it is not
begun at all. -/
theorem mergeRuns_of_sparesBoxes (nodes : List (Node α)) :
    (∀ run, (∀ node ∈ run, node.isBox = false) → SparesBoxes (runs true run nodes) →
        mergeRuns true run nodes = mergeRuns false run nodes) ∧
      ∀ box : Node α, box.isBox = true → SparesBoxes (runs true [box] nodes) →
        mergeRuns true [box] nodes = box :: mergeRuns false [] nodes := by
  induction nodes with
  | nil => exact ⟨fun _ _ _ => rfl, fun _ _ _ => rfl⟩
  | cons node rest ih =>
      obtain ⟨plain, single⟩ := ih
      have afresh := plain [] fun _ absent => absurd absent List.not_mem_nil
      constructor
      · intro run noBoxes spares
        cases alone : node.isAbsorbable true && !node.isSpecial with
        | false =>
            rw [mergeRuns, mergeRuns, alone, not_joins_of_not_joins alone,
              if_neg Bool.false_ne_true, if_neg Bool.false_ne_true, afresh (spares.rest alone)]
        | true =>
            have further : SparesBoxes (runs true (run ++ [node]) rest) := by
              rw [runs, alone] at spares
              exact spares
            cases box : node.isBox with
            | false =>
                rw [mergeRuns, mergeRuns, ← joins_of_not_box box, alone, if_pos rfl, if_pos rfl]
                refine plain _ (fun other member => ?_) further
                rcases List.mem_append.mp member with old | new
                · exact noBoxes other old
                · rw [List.mem_singleton.mp new]
                  exact box
            | true =>
                cases run with
                | nil =>
                    rw [mergeRuns, mergeRuns, alone, not_joins_of_box box, if_pos rfl,
                      if_neg Bool.false_ne_true]
                    exact single node box further
                | cons first others =>
                    refine absurd (false_of_sparesBoxes further ?_ ?_ box) not_false
                    · rw [List.length_append]
                      exact Nat.succ_le_succ (Nat.le_add_left 1 _)
                    · exact List.mem_append_right _ List.mem_cons_self
      · intro box isBox spares
        cases alone : node.isAbsorbable true && !node.isSpecial with
        | false =>
            rw [mergeRuns, mergeRuns, alone, not_joins_of_not_joins alone,
              if_neg Bool.false_ne_true, if_neg Bool.false_ne_true, afresh (spares.rest alone)]
            rfl
        | true =>
            rw [runs, alone] at spares
            exact absurd (false_of_sparesBoxes spares (Nat.le_refl 2) List.mem_cons_self isBox)
              not_false

/-- Neighbours are merged alike with and without boxes. -/
theorem mergeSiblings_of_sparesBoxes {hasBackground : Bool} {children : List (Node α)}
    (spares : SparesBoxes (siblingRuns true hasBackground children)) :
    mergeSiblings true hasBackground children = mergeSiblings false hasBackground children := by
  have none : ∀ node ∈ ([] : List (Node α)), node.isBox = false :=
    fun _ absent => absurd absent List.not_mem_nil
  cases hasBackground with
  | false => exact (mergeRuns_of_sparesBoxes children).1 [] none spares
  | true =>
      cases children with
      | nil => rfl
      | cons first rest =>
          exact congrArg (first :: ·) ((mergeRuns_of_sparesBoxes rest).1 [] none
            fun run member => spares run (List.mem_cons_of_mem _ member))

/-! ### Children with and without boxes -/

section

variable {hasBackground : Bool} {children : List (Node α)}

theorem noBox_of_joins {node : Node α} (joins : Joins false node) : node.isBox = false := by
  refine Bool.eq_false_iff.mpr fun box => ?_
  have alone := not_joins_of_box box
  rw [joins.1, joins.2] at alone
  cases alone

theorem sparesBoxes_siblingRuns_false : SparesBoxes (siblingRuns false hasBackground children) := by
  intro run found several node member
  rcases joins_of_mem_siblingRuns false hasBackground children run found with joined | ⟨single, same⟩
  · exact noBox_of_joins (joined node member)
  · rw [same] at several
    exact absurd several (Nat.not_succ_le_self 1)

theorem boxCountAll_flatMap_mergeRun {runs : List (List (Node α))} (isRun : ∀ run ∈ runs, IsRun run) :
    (SparesBoxes runs → boxCountAll (runs.flatMap mergeRun) = boxCountAll runs.flatten) ∧
      (¬ SparesBoxes runs → boxCountAll (runs.flatMap mergeRun) < boxCountAll runs.flatten) := by
  induction runs with
  | nil => exact ⟨fun _ => rfl, fun merges => absurd (fun _ absent => absurd absent List.not_mem_nil) merges⟩
  | cons run rest ih =>
      obtain ⟨own, others⟩ := List.forall_mem_cons.mp isRun
      obtain ⟨same, less⟩ := boxCountAll_mergeRun own
      obtain ⟨sameLater, lessLater⟩ := ih others
      rw [List.flatMap_cons, List.flatten_cons, boxCountAll_append, boxCountAll_append]
      constructor
      · intro spares
        obtain ⟨here, later⟩ := List.forall_mem_cons.mp spares
        rw [same here, sameLater later]
      · intro merges
        by_cases here : Spares run
        · have later : ¬ SparesBoxes rest := fun later =>
            merges (List.forall_mem_cons.mpr ⟨here, later⟩)
          exact Nat.add_lt_add_of_le_of_lt (Nat.le_of_eq (same here)) (lessLater later)
        · by_cases later : SparesBoxes rest
          · exact Nat.add_lt_add_of_lt_of_le (less here) (Nat.le_of_eq (sameLater later))
          · exact Nat.add_lt_add (less here) (lessLater later)

theorem boxCountAll_mergeSiblings (eager : Bool) :
    (SparesBoxes (siblingRuns eager hasBackground children) →
        boxCountAll (mergeSiblings eager hasBackground children) = boxCountAll children) ∧
      (¬ SparesBoxes (siblingRuns eager hasBackground children) →
        boxCountAll (mergeSiblings eager hasBackground children) < boxCountAll children) := by
  have whole := boxCountAll_flatMap_mergeRun (isRun_of_mem_siblingRuns eager hasBackground children)
  rw [flatten_siblingRuns, ← mergeSiblings_eq_flatMap] at whole
  exact whole

end

variable {info : NodeInfo α} {children : List (Node α)}

/-- Among the children of a node a run of several is merged that has a box in it. -/
def mergesBoxes (info : NodeInfo α) (children : List (Node α)) : Bool :=
  (mergingRuns true info children).any (fun run => run.any (fun node => node.isBox))

theorem mergesBoxes_eq_false_iff :
    mergesBoxes info children = false ↔ (info.layer.arrangement.isStack = false →
      SparesBoxes (siblingRuns true (hasBackground ⟨info, children⟩) children)) := by
  unfold mergesBoxes mergingRuns
  cases info.layer.arrangement.isStack with
  | true => exact ⟨fun _ impossible => absurd impossible (by decide), fun _ => rfl⟩
  | false =>
      rw [if_neg Bool.false_ne_true, List.any_eq_false]
      simp only [List.mem_filter, decide_eq_true_eq, List.any_eq_true, not_exists, not_and,
        Bool.not_eq_true]
      exact ⟨fun none _ run found several => none run ⟨found, several⟩,
        fun spares run found => spares trivial run found.1 found.2⟩

theorem mergesBoxes_nil : mergesBoxes info [] = false := by
  unfold mergesBoxes mergingRuns
  split <;> rfl

theorem mergedChildren_of_not_mergesBoxes (spares : mergesBoxes info children = false) :
    mergedChildren true info children = mergedChildren false info children := by
  have each := mergesBoxes_eq_false_iff.mp spares
  unfold mergedChildren
  cases stacked : info.layer.arrangement.isStack with
  | true => rfl
  | false =>
      rw [if_neg Bool.false_ne_true, if_neg Bool.false_ne_true]
      exact mergeSiblings_of_sparesBoxes (each stacked)

/-- Without boxes in the runs each box keeps its widget. -/
theorem boxCountAll_mergedChildren_false :
    boxCountAll (mergedChildren false info children) = boxCountAll children := by
  unfold mergedChildren
  split
  · rfl
  · exact (boxCountAll_mergeSiblings false).1 sparesBoxes_siblingRuns_false

theorem boxCountAll_mergedChildren_true (info : NodeInfo α) (children : List (Node α)) :
    boxCountAll (mergedChildren true info children) ≤ boxCountAll children ∧
      (mergesBoxes info children = true →
        boxCountAll (mergedChildren true info children) < boxCountAll children) := by
  cases merges : mergesBoxes info children with
  | false =>
      rw [mergedChildren_of_not_mergesBoxes merges, boxCountAll_mergedChildren_false]
      exact ⟨Nat.le_refl _, fun impossible => absurd impossible Bool.false_ne_true⟩
  | true =>
      have joined : ¬ (info.layer.arrangement.isStack = false →
          SparesBoxes (siblingRuns true (hasBackground ⟨info, children⟩) children)) := by
        rw [← mergesBoxes_eq_false_iff, merges]
        exact Bool.noConfusion
      rw [Classical.not_imp] at joined
      have less : boxCountAll (mergedChildren true info children) < boxCountAll children := by
        rw [mergedChildren, joined.1, if_neg Bool.false_ne_true]
        exact (boxCountAll_mergeSiblings true).2 joined.2
      exact ⟨Nat.le_of_lt less, fun _ => less⟩

/-! ### The pass -/

variable [Scalar α]

theorem boxCount_collapse (node : Node α) : node.collapse.boxCount = node.boxCount := by
  rcases collapse_cases node with same | ⟨child, unit, only, shape, -, -, collapsible, collapsed⟩
  · rw [same]
  · have inner : child.isShape = true := by rw [NodeInfo.isShape, shape]
    have takes : node.kind.takesChildren = true := by
      rw [plain_of_isCollapsible collapsible]
      rfl
    obtain ⟨info, children⟩ := node
    change children = [child] at only
    rw [collapsed, boxCount_of_shape rfl, boxCount_of_takesChildren takes, only, boxCountAll,
      boxCount_of_shape inner, boxCountAll]

theorem boxCountAll_children_collapse (node : Node α) :
    boxCountAll node.collapse.children = boxCountAll node.children := by
  rcases collapse_cases node with same | ⟨child, unit, only, shape, -, -, -, collapsed⟩
  · rw [same]
  · have inner : child.isShape = true := by rw [NodeInfo.isShape, shape]
    rw [collapsed, only, boxCountAll, boxCountAll, boxCount_of_shape inner, boxCountAll]

theorem boxCount_combineShapes (takes : info.kind.takesChildren = true) (eager : Bool) :
    boxCount (combineShapes ⟨info, children⟩ eager) =
      boxCountAll (mergedChildren (isEagerBelow info.layer eager) info
        (combineAll children (isEagerBelow info.layer eager))) := by
  rw [combineShapes, boxCount_collapse, mergeChildren_eq, boxCount_of_takesChildren takes]

theorem boxCountAll_children_combineShapes (takes : info.kind.takesChildren = true) (eager : Bool) :
    boxCountAll (combineShapes ⟨info, children⟩ eager).children =
      boxCount (combineShapes ⟨info, children⟩ eager) := by
  rw [boxCount_combineShapes takes, combineShapes, boxCountAll_children_collapse, mergeChildren_eq]

mutual

/-- Below a node a box is merged with its neighbours once boxes merge there, and not
before: where a layer asks for that itself they merge in any case. -/
def joinsBoxes : Node α → Bool
  | ⟨info, children⟩ =>
      !info.isEagerItself &&
        (anyJoinsBoxes children || mergesBoxes info (combineAll children true))

def anyJoinsBoxes : List (Node α) → Bool
  | [] => false
  | node :: rest => joinsBoxes node || anyJoinsBoxes rest

end

mutual

theorem combineShapes_of_not_joinsBoxes : ∀ node : Node α, node.joinsBoxes = false →
    combineShapes node true = combineShapes node false
  | ⟨info, children⟩, spares => by
      have handed : isEagerBelow info.layer false = info.isEagerItself := rfl
      have forced : isEagerBelow info.layer true = true := rfl
      rw [combineShapes, combineShapes, handed, forced]
      cases eager : info.isEagerItself with
      | true => rfl
      | false =>
          rw [joinsBoxes, eager, Bool.not_false, Bool.true_and, Bool.or_eq_false_iff] at spares
          have below := combineAll_of_not_anyJoinsBoxes children spares.1
          rw [mergeChildren_eq, mergeChildren_eq, ← below,
            mergedChildren_of_not_mergesBoxes spares.2]

theorem combineAll_of_not_anyJoinsBoxes : ∀ nodes : List (Node α), anyJoinsBoxes nodes = false →
    combineAll nodes true = combineAll nodes false
  | [], _ => rfl
  | node :: rest, spares => by
      rw [anyJoinsBoxes, Bool.or_eq_false_iff] at spares
      rw [combineAll, combineAll, combineShapes_of_not_joinsBoxes node spares.1,
        combineAll_of_not_anyJoinsBoxes rest spares.2]

end

mutual

/-- Boxes that are merged are lost. -/
theorem boxCount_combineShapes_true : ∀ node : Node α, node.IsAsBuilt →
    boxCount (combineShapes node true) ≤ boxCount (combineShapes node false) ∧
      (node.joinsBoxes = true →
        boxCount (combineShapes node true) < boxCount (combineShapes node false))
  | ⟨info, children⟩, built => by
      cases takes : info.kind.takesChildren with
      | false =>
          rw [built.1 takes, combineShapes_childless, combineShapes_childless]
          refine ⟨Nat.le_refl _, fun joins => ?_⟩
          rw [joinsBoxes, anyJoinsBoxes, combineAll, mergesBoxes_nil, Bool.or_false,
            Bool.and_false] at joins
          cases joins
      | true =>
          have handed : isEagerBelow info.layer false = info.isEagerItself := rfl
          have forced : isEagerBelow info.layer true = true := rfl
          rw [boxCount_combineShapes takes, boxCount_combineShapes takes, handed, forced]
          cases eager : info.isEagerItself with
          | true =>
              refine ⟨Nat.le_refl _, fun joins => ?_⟩
              rw [joinsBoxes, eager] at joins
              cases joins
          | false =>
              obtain ⟨fewer, less⟩ := boxCountAll_combineAll_true children built.2
              obtain ⟨merged, mergedLess⟩ :=
                boxCountAll_mergedChildren_true info (combineAll children true)
              rw [boxCountAll_mergedChildren_false]
              refine ⟨Nat.le_trans merged fewer, fun joins => ?_⟩
              rw [joinsBoxes, eager, Bool.not_false, Bool.true_and, Bool.or_eq_true] at joins
              rcases joins with below | here
              · exact Nat.lt_of_le_of_lt merged (less below)
              · exact Nat.lt_of_lt_of_le (mergedLess here) fewer

theorem boxCountAll_combineAll_true : ∀ nodes : List (Node α), AreAsBuilt nodes →
    boxCountAll (combineAll nodes true) ≤ boxCountAll (combineAll nodes false) ∧
      (anyJoinsBoxes nodes = true →
        boxCountAll (combineAll nodes true) < boxCountAll (combineAll nodes false))
  | [], _ => ⟨Nat.le_refl _, fun impossible => absurd impossible Bool.false_ne_true⟩
  | node :: rest, ⟨⟨_, built⟩, restBuilt⟩ => by
      obtain ⟨fewer, less⟩ := boxCount_combineShapes_true node built
      obtain ⟨fewerLater, lessLater⟩ := boxCountAll_combineAll_true rest restBuilt
      rw [combineAll, combineAll, boxCountAll, boxCountAll]
      refine ⟨Nat.add_le_add fewer fewerLater, fun joins => ?_⟩
      rw [anyJoinsBoxes, Bool.or_eq_true] at joins
      rcases joins with here | later
      · exact Nat.add_lt_add_of_lt_of_le (less here) fewerLater
      · exact Nat.add_lt_add_of_le_of_lt fewer (lessLater later)

end

/-- A node that joins boxes has children. -/
theorem takesChildren_of_joinsBoxes {node : Node α} (built : node.IsAsBuilt)
    (joins : node.joinsBoxes = true) : node.kind.takesChildren = true := by
  refine Bool.of_not_eq_false fun leaf => ?_
  have less := (boxCount_combineShapes_true node built).2 joins
  obtain ⟨info, children⟩ := node
  rw [built.1 leaf, combineShapes_childless, combineShapes_childless] at less
  exact Nat.lt_irrefl _ less

/-- The children of a node after the pass with boxes and after the pass without them. -/
theorem children_combineShapes_true {node : Node α} (built : node.IsAsBuilt) :
    (node.joinsBoxes = false →
        (combineShapes node true).children = (combineShapes node false).children) ∧
      (node.joinsBoxes = true →
        boxCountAll (combineShapes node true).children <
          boxCountAll (combineShapes node false).children) := by
  constructor
  · intro spares
    rw [combineShapes_of_not_joinsBoxes node spares]
  · intro joins
    have less := (boxCount_combineShapes_true node built).2 joins
    have takes := takesChildren_of_joinsBoxes built joins
    obtain ⟨info, children⟩ := node
    rw [boxCountAll_children_combineShapes takes, boxCountAll_children_combineShapes takes]
    exact less

end Node

end DesignExport
