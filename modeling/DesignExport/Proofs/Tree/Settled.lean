import DesignExport.Proofs.Tree.Carried
import Mathlib.Data.List.Chain
set_option autoImplicit false

/-! The shape pass comes to rest in one run. Afterwards no two neighbours would merge and no
group would collapse, and a tree of which that holds is not changed by the pass. -/

namespace DesignExport

variable {α : Type}

namespace Node

/-! ### Neighbours that do not merge -/

/-- Of two neighbours at most one would join a run. -/
def NoneMeet (eager : Bool) (nodes : List (Node α)) : Prop :=
  nodes.IsChain (fun first second => ¬(Joins eager first ∧ Joins eager second))

/-- The children that are not kept aside as a background. -/
def foreground (node : Node α) : List (Node α) :=
  if node.hasBackground then node.children.tail else node.children

theorem joins_iff {eager : Bool} {node : Node α} :
    (node.isAbsorbable eager && !node.isSpecial) = true ↔ Joins eager node := by
  rw [Bool.and_eq_true, Bool.not_eq_true']
  rfl

theorem mergeRun_eq (first second : Node α) (others : List (Node α)) :
    ∃ kind : NodeKind α, mergeRun (first :: second :: others) = [{ first with kind := kind }] := by
  obtain ⟨last, merged⟩ := exists_kind_foldl_absorb (second :: others) first.asShape
  obtain ⟨begun, framed⟩ := exists_kind_asShape first
  refine ⟨last, ?_⟩
  change [(second :: others).foldl absorb first.asShape] = _
  rw [merged, framed]

theorem isShape_of_mem_mergeRun {first second : Node α} {others : List (Node α)}
    (pictures : ∀ node ∈ first :: second :: others, node.isPicture = true) :
    ∀ node ∈ mergeRun (first :: second :: others), node.isShape = true := by
  obtain ⟨picture, rest⟩ := List.forall_mem_cons.mp pictures
  intro node member
  rw [List.mem_singleton.mp member]
  exact isShape_foldl_absorb (second :: others) first.asShape (asShape_of_picture picture).1 rest

/-- There is one node for a run, unless the run is empty. -/
theorem mergeRun_cases (run : List (Node α)) :
    mergeRun run = [] ∨ ∃ node, mergeRun run = [node] := by
  match run with
  | [] => exact Or.inl rfl
  | [node] => exact Or.inr ⟨node, rfl⟩
  | first :: second :: others =>
      obtain ⟨kind, merged⟩ := mergeRun_eq first second others
      exact Or.inr ⟨_, merged⟩

section Runs

variable {eager : Bool}

/-- Neighbours that would not merge stay as they are, whether or not a run has been begun with
the first of them. -/
theorem mergeRuns_of_noneMeet (nodes : List (Node α)) :
    (NoneMeet eager nodes → mergeRuns eager [] nodes = nodes) ∧
      ∀ begun, Joins eager begun → NoneMeet eager (begun :: nodes) →
        mergeRuns eager [begun] nodes = begun :: nodes := by
  induction nodes with
  | nil => exact ⟨fun _ => rfl, fun _ _ _ => rfl⟩
  | cons node rest ih =>
      obtain ⟨alone, behind⟩ := ih
      constructor
      · intro apart
        rw [mergeRuns]
        split
        case isTrue joins => exact behind node (joins_iff.mp joins) apart
        case isFalse => rw [alone apart.tail, mergeRun, List.nil_append]
      · intro begun joined apart
        have stays : ¬(node.isAbsorbable eager && !node.isSpecial) = true := fun joins =>
          (List.isChain_cons_cons.mp apart).1 ⟨joined, joins_iff.mp joins⟩
        rw [mergeRuns, if_neg stays, alone apart.tail.tail, mergeRun, List.singleton_append]

theorem mergeSiblings_of_noneMeet {info : NodeInfo α} {children : List (Node α)}
    (apart : NoneMeet eager (foreground ⟨info, children⟩)) :
    mergeSiblings eager (hasBackground ⟨info, children⟩) children = children := by
  unfold foreground at apart
  cases background : hasBackground ⟨info, children⟩ with
  | false =>
      rw [background, if_neg Bool.false_ne_true] at apart
      exact (mergeRuns_of_noneMeet children).1 apart
  | true =>
      rw [background, if_pos rfl] at apart
      cases children with
      | nil => cases background
      | cons first rest => exact congrArg (first :: ·) ((mergeRuns_of_noneMeet rest).1 apart)

/-- What comes out of a merge would not merge again: between two runs stands a node that joins
neither. -/
theorem noneMeet_mergeRuns (nodes : List (Node α)) :
    ∀ run : List (Node α), NoneMeet eager (mergeRuns eager run nodes) := by
  induction nodes with
  | nil =>
      intro run
      rw [mergeRuns]
      rcases mergeRun_cases run with empty | ⟨node, single⟩
      · rw [empty]
        exact List.isChain_nil
      · rw [single]
        exact List.isChain_singleton node
  | cons node rest ih =>
      intro run
      rw [mergeRuns]
      split
      case isTrue => exact ih (run ++ [node])
      case isFalse stays =>
        have apart : NoneMeet eager (node :: mergeRuns eager [] rest) :=
          List.isChain_cons.mpr ⟨fun _ _ both => stays (joins_iff.mpr both.1), ih []⟩
        rcases mergeRun_cases run with empty | ⟨first, single⟩
        · rw [empty]
          exact apart
        · rw [single]
          exact List.isChain_cons_cons.mpr ⟨fun both => stays (joins_iff.mpr both.2), apart⟩

/-! ### The first of the children -/

theorem head_layer_mergeRun (run : List (Node α)) :
    (mergeRun run).head?.map (·.layer) = run.head?.map (·.layer) := by
  match run with
  | [] | [_] => rfl
  | first :: second :: others =>
      obtain ⟨kind, merged⟩ := mergeRun_eq first second others
      rw [merged]
      rfl

theorem head_layer_mergeRuns (nodes : List (Node α)) : ∀ run : List (Node α),
    (mergeRuns eager run nodes).head?.map (·.layer) = (run ++ nodes).head?.map (·.layer) := by
  induction nodes with
  | nil =>
      intro run
      rw [mergeRuns, head_layer_mergeRun, List.append_nil]
  | cons node rest ih =>
      intro run
      rw [mergeRuns]
      split
      · rw [ih, List.append_assoc]
        rfl
      · have same := head_layer_mergeRun run
        rw [List.head?_append, List.head?_append]
        cases merged : (mergeRun run).head? <;> cases begun : run.head? <;>
          rw [merged, begun] at same <;> first | rfl | cases same | exact same

theorem hasBackground_eq (info : NodeInfo α) (children : List (Node α)) :
    hasBackground ⟨info, children⟩ =
      ((children.head?.map (·.layer)).map info.takesBackground).getD false := by
  cases children <;> rfl

/-- A merge leaves the layer of the first child where it is, and with it the background. -/
theorem hasBackground_mergeSiblings (info : NodeInfo α) (keeps : Bool) (children : List (Node α)) :
    hasBackground ⟨info, mergeSiblings eager keeps children⟩ = hasBackground ⟨info, children⟩ := by
  rw [hasBackground_eq, hasBackground_eq]
  unfold mergeSiblings
  split
  · rfl
  · rw [head_layer_mergeRuns, List.nil_append]

theorem noneMeet_foreground_mergeSiblings (info : NodeInfo α) (children : List (Node α)) :
    NoneMeet eager (foreground ⟨info,
      mergeSiblings eager (hasBackground ⟨info, children⟩) children⟩) := by
  unfold foreground
  rw [hasBackground_mergeSiblings]
  cases background : hasBackground ⟨info, children⟩ with
  | false => exact noneMeet_mergeRuns children []
  | true =>
      cases children with
      | nil => cases background
      | cons first rest => exact noneMeet_mergeRuns rest []

end Runs

/-! ### Trees at rest -/

variable [Scalar α]

/-- A plain group that is left with one shape and may be replaced by it. -/
structure MayCollapse (node : Node α) (child : Node α) (unit : ShapeUnit α) : Prop where
  only : node.children = [child]
  shape : child.kind = .shape unit
  collapsible : node.isCollapsible = true
  noBackground : node.hasBackground = false
  plain : child.decorators = []
  inline : child.mode = .inline

theorem collapse_of_mayCollapse {node child : Node α} {unit : ShapeUnit α}
    (may : node.MayCollapse child unit) : node.collapse =
      { node with kind := .shape (ShapeUnit.framed node.layer unit), children := [] } := by
  have holds : (node.isCollapsible && !node.hasBackground && child.decorators.isEmpty &&
      decide (child.mode = .inline)) = true := by
    rw [may.collapsible, may.noBackground, may.plain, may.inline]
    rfl
  unfold collapse
  rw [may.only]
  dsimp only
  rw [may.shape]
  exact if_pos holds

theorem collapse_of_not_mayCollapse {node : Node α}
    (stays : ∀ child unit, ¬node.MayCollapse child unit) : node.collapse = node := by
  unfold collapse
  split
  case h_2 => rfl
  case h_1 child only =>
    split
    case h_2 => rfl
    case h_1 unit shape =>
      split
      case isFalse => rfl
      case isTrue collapses =>
        simp only [Bool.and_eq_true, Bool.not_eq_true', List.isEmpty_iff, decide_eq_true_eq] at collapses
        obtain ⟨⟨⟨collapsible, noBackground⟩, plain⟩, inline⟩ := collapses
        exact absurd ⟨only, shape, collapsible, noBackground, plain, inline⟩ (stays child unit)

mutual

/-- Nothing is left to merge or to collapse in a tree, given whether boxes merge too. -/
def IsSettled : Node α → Bool → Prop
  | ⟨info, children⟩, eager =>
      (info.layer.arrangement.isStack = false →
          NoneMeet (isEagerBelow info.layer eager) (foreground ⟨info, children⟩)) ∧
        (∀ child unit, ¬MayCollapse ⟨info, children⟩ child unit) ∧
        AreSettled children (isEagerBelow info.layer eager)

def AreSettled : List (Node α) → Bool → Prop
  | [], _ => True
  | node :: rest, eager => IsSettled node eager ∧ AreSettled rest eager

end

theorem areSettled_iff {nodes : List (Node α)} {eager : Bool} :
    AreSettled nodes eager ↔ ∀ node ∈ nodes, node.IsSettled eager := by
  induction nodes with
  | nil => exact ⟨fun _ _ absent => absurd absent List.not_mem_nil, fun _ => trivial⟩
  | cons node rest ih => rw [AreSettled, ih, List.forall_mem_cons]

theorem isSettled_childless (info : NodeInfo α) (eager : Bool) :
    IsSettled (⟨info, []⟩ : Node α) eager := by
  refine ⟨fun _ => ?_, fun child unit may => ?_, trivial⟩
  · exact List.isChain_nil
  · cases may.only

mutual

/-- The pass leaves a tree alone in which nothing is left to do. -/
theorem combineShapes_of_isSettled : ∀ (node : Node α) (eager : Bool), node.IsSettled eager →
    node.combineShapes eager = node
  | ⟨info, children⟩, eager, ⟨apart, stays, below⟩ => by
      have merged : mergedChildren (isEagerBelow info.layer eager) info children = children := by
        unfold mergedChildren
        split
        case isTrue => rfl
        case isFalse notStack =>
          exact mergeSiblings_of_noneMeet (apart (Bool.not_eq_true _ ▸ notStack))
      rw [combineShapes, combineAll_of_areSettled children _ below, mergeChildren_eq, merged]
      exact collapse_of_not_mayCollapse stays

theorem combineAll_of_areSettled : ∀ (nodes : List (Node α)) (eager : Bool),
    AreSettled nodes eager → combineAll nodes eager = nodes
  | [], _, _ => rfl
  | node :: rest, eager, ⟨first, others⟩ => by
      rw [combineAll, combineShapes_of_isSettled node eager first,
        combineAll_of_areSettled rest eager others]

end

/-! ### After the pass -/

section Merged

variable {eager : Bool}

/-- A picture that becomes a shape has the same children as before, and no background either
way. -/
theorem IsSettled.withShape {info : NodeInfo α} {children : List (Node α)}
    (settled : IsSettled ⟨info, children⟩ eager) (picture : info.isPicture = true)
    (unit : ShapeUnit α) : IsSettled ⟨{ info with kind := .shape unit }, children⟩ eager := by
  obtain ⟨apart, -, below⟩ := settled
  have none : hasBackground ⟨info, children⟩ = false := by
    cases children with
    | nil => rfl
    | cons first rest =>
        unfold NodeInfo.isPicture at picture
        change info.takesBackground first.layer = false
        unfold NodeInfo.takesBackground
        cases kind : info.kind with
        | shape | box | text => rfl
        | widgetRoot | group => rw [kind] at picture; cases picture
  have still : hasBackground ⟨{ info with kind := .shape unit }, children⟩ = false := by
    cases children <;> rfl
  refine ⟨fun notStack => ?_, fun child inner may => ?_, below⟩
  · have before := apart notStack
    rw [foreground, none] at before
    rw [foreground, still]
    exact before
  · have collapsible := may.collapsible
    cases plain_of_isCollapsible collapsible

theorem isSettled_of_mem_mergeRun {run : List (Node α)}
    (isRun : (∀ node ∈ run, Joins eager node) ∨ ∃ node, run = [node])
    (settled : ∀ node ∈ run, node.IsSettled eager) :
    ∀ node ∈ mergeRun run, node.IsSettled eager := by
  match run with
  | [] | [_] => exact settled
  | ⟨info, children⟩ :: second :: others =>
      rcases isRun with joined | ⟨node, single⟩
      · have pictures : ∀ node ∈ ⟨info, children⟩ :: second :: others, node.isPicture = true :=
          fun node member => isPicture_of_isAbsorbable (joined node member).1
        obtain ⟨picture, -⟩ := List.forall_mem_cons.mp pictures
        have shape := isShape_of_mem_mergeRun pictures
        obtain ⟨kind, merged⟩ := mergeRun_eq ⟨info, children⟩ second others
        rw [merged, List.forall_mem_singleton] at shape ⊢
        cases kind with
        | shape unit => exact IsSettled.withShape (settled _ List.mem_cons_self) picture unit
        | widgetRoot | box | group | text => cases shape
      · cases single

theorem isSettled_of_mem_mergeSiblings (keeps : Bool) {children : List (Node α)}
    (settled : ∀ node ∈ children, node.IsSettled eager) :
    ∀ node ∈ mergeSiblings eager keeps children, node.IsSettled eager := by
  intro node member
  rw [mergeSiblings_eq_flatMap, List.mem_flatMap] at member
  obtain ⟨run, found, inside⟩ := member
  exact isSettled_of_mem_mergeRun (joins_of_mem_siblingRuns _ _ _ run found)
    (fun other among => settled other (mem_of_mem_siblingRuns _ _ _ found among)) node inside

/-- A collapse leaves a group without children, or as it was. -/
theorem isSettled_collapse {info : NodeInfo α} {children : List (Node α)}
    (apart : info.layer.arrangement.isStack = false →
      NoneMeet (isEagerBelow info.layer eager) (foreground ⟨info, children⟩))
    (below : ∀ child ∈ children, child.IsSettled (isEagerBelow info.layer eager)) :
    IsSettled (collapse ⟨info, children⟩) eager := by
  by_cases may : ∃ child unit, MayCollapse ⟨info, children⟩ child unit
  · obtain ⟨child, unit, collapses⟩ := may
    rw [collapse_of_mayCollapse collapses]
    exact isSettled_childless _ eager
  · have stays : ∀ child unit, ¬MayCollapse ⟨info, children⟩ child unit :=
      fun child unit collapses => may ⟨child, unit, collapses⟩
    rw [collapse_of_not_mayCollapse stays]
    exact ⟨apart, stays, areSettled_iff.mpr below⟩

end Merged

mutual

theorem isSettled_combineShapes : ∀ (node : Node α) (eager : Bool),
    (node.combineShapes eager).IsSettled eager
  | ⟨info, children⟩, eager => by
      have each := isSettled_of_mem_combineAll children (isEagerBelow info.layer eager)
      rw [combineShapes, mergeChildren_eq]
      unfold mergedChildren
      split
      case isTrue stack =>
        exact isSettled_collapse (fun notStack => by rw [stack] at notStack; cases notStack) each
      case isFalse =>
        exact isSettled_collapse (fun _ => noneMeet_foreground_mergeSiblings info _)
          (isSettled_of_mem_mergeSiblings _ each)

theorem isSettled_of_mem_combineAll : ∀ (nodes : List (Node α)) (eager : Bool),
    ∀ node ∈ combineAll nodes eager, node.IsSettled eager
  | [], _ => fun _ absent => absurd absent List.not_mem_nil
  | node :: rest, eager => by
      rw [combineAll]
      exact List.forall_mem_cons.mpr
        ⟨isSettled_combineShapes node eager, isSettled_of_mem_combineAll rest eager⟩

end

/-- The pass changes every tree in which there is something left to do. -/
theorem combineShapes_eq_self_iff {node : Node α} {eager : Bool} :
    node.combineShapes eager = node ↔ node.IsSettled eager := by
  constructor
  · intro same
    rw [← same]
    exact isSettled_combineShapes node eager
  · exact combineShapes_of_isSettled node eager

/-- One run of the pass leaves nothing to do, and a second run changes nothing. -/
theorem combineShapes_settles (node : Node α) (eager : Bool) :
    (node.combineShapes eager).IsSettled eager ∧
      (node.combineShapes eager).combineShapes eager = node.combineShapes eager :=
  have settled := isSettled_combineShapes node eager
  ⟨settled, combineShapes_eq_self_iff.mpr settled⟩

end Node

end DesignExport
