import DesignExport.Layout.Placement
import Mathlib.Tactic.ByContra
set_option autoImplicit false

/-! States of layouts. However a layout is changed and in whatever order, its type, size,
padding and alignment fit together as when it was classified, so that no layout lacks the
alignment it asks for. And as it was classified its size is pending. -/

namespace DesignExport

section Consistent

variable {α : Type}

/-- The parts of a layout fit together. -/
structure Layout.IsConsistent (layout : Layout α) : Prop where
  aligned : layout.type = .center ∨ layout.type = .align → layout.alignment.isSome
  centered : layout.type = .center ↔ layout.alignment = some (.named .middle .middle)
  padded : layout.padding.isSome →
    layout.type = .none ∧ layout.isResponsive = true ∧ layout.isFixedSize = false
  moved : layout.type = .translate → layout.isFixedSize = true ∧ layout.isResponsive = false
  responsive : layout.isFixedSize = true → layout.isResponsive = true →
    layout.type = .center ∨ layout.type = .align
  within : layout.type ≠ .none → layout.parentBounds.isSome

/-- What may happen to a layout. -/
inductive LayoutStep (α : Type) where
  | calculate (input : LayoutInput α)
  | recalculate (bounds : Rect α)
  | reset (isFixedSize : Bool)
  /-- The code of a layer is wrapped. -/
  | wrap (code : String) (layer : LayerInfo α) (unit : String)
  | takePadding
  | setBounds (bounds : Option (Rect α))
  | setEnabled (isEnabled : Bool)
  | setFixSize (shouldFixSize : Bool)
  | setExpand (shouldExpand : Bool)

namespace Layout

theorem isCenter_iff (alignment : Alignment α) :
    alignment.isCenter = true ↔ alignment = .named .middle .middle := by
  unfold Alignment.isCenter
  split
  case h_1 => exact ⟨fun _ => rfl, fun _ => rfl⟩
  case h_2 other => exact ⟨fun no => absurd no Bool.false_ne_true, fun same => absurd same other⟩

/-! ### Classification -/

/-- What a classification can come to. -/
inductive Classified (layout : Layout α) : Layout α → Prop where
  | filling (padding : Option (EdgeInsets α)) :
      Classified layout { layout with type := .none, isResponsive := true, padding }
  | stacked : Classified layout { layout with type := .pinned, isFixedSize := true }
  | aligned (alignment : Alignment α) :
      Classified layout
        { layout with
          type := if alignment.isCenter then .center else .align
          isResponsive := true
          isFixedSize := true
          alignment := some alignment }
  | pinned : Classified layout { layout with type := .pinned, isResponsive := true }
  | moved : Classified layout { layout with type := .translate, isFixedSize := true }

/-- A layout with a parent that has not been classified. -/
structure IsUnclassified (layout : Layout α) : Prop where
  alignment : layout.alignment = none
  padding : layout.padding = none
  isFixedSize : layout.isFixedSize = false
  isResponsive : layout.isResponsive = false
  parentBounds : layout.parentBounds.isSome

theorem Classified.isConsistent {layout classified : Layout α}
    (result : layout.Classified classified) (before : layout.IsUnclassified) :
    classified.IsConsistent := by
  obtain ⟨alignment, padding, isFixedSize, isResponsive, parentBounds⟩ := before
  cases result with
  | filling => constructor <;> simp [alignment, isFixedSize]
  | stacked => constructor <;> simp [alignment, padding, isResponsive, parentBounds]
  | aligned found =>
      have center := isCenter_iff found
      cases isCenter : found.isCenter with
      | true => constructor <;> simp [padding, parentBounds, center.mp isCenter]
      | false =>
          have other : found ≠ .named .middle .middle := by
            rw [Ne, ← center, isCenter]
            exact Bool.false_ne_true
          constructor <;> simp [padding, parentBounds, other]
  | pinned => constructor <;> simp [alignment, padding, isFixedSize, parentBounds]
  | moved => constructor <;> simp [alignment, padding, isResponsive, parentBounds]

variable [Scalar α]

theorem classified_classifyConstrained (layout : Layout α) (content bounds : Rect α)
    (constraints : ResizeConstraints) :
    layout.Classified (classifyConstrained layout content bounds constraints) := by
  unfold classifyConstrained
  split
  case isTrue => exact Classified.filling _
  case isFalse =>
    dsimp only
    split
    case h_1 alignment _ => exact Classified.aligned alignment
    case h_2 => exact Classified.pinned

theorem classified_classify (layout : Layout α) (parent : ParentFrame α) :
    layout.Classified (classify layout parent) := by
  unfold classify
  dsimp only
  split
  case h_1 =>
    split
    case isTrue => exact Classified.filling layout.padding
    case isFalse => exact Classified.stacked
  case h_2 =>
    split
    case h_1 => exact classified_classifyConstrained _ _ _ _
    case h_2 => exact Classified.moved

/-! ### Steps and runs -/

/-- A layout after a step. -/
def after (layout : Layout α) : LayoutStep α → Layout α
  | .calculate input => layout.calculate input
  | .recalculate bounds => layout.recalculateWithBounds bounds
  | .reset isFixedSize => layout.reset isFixedSize
  | .wrap code layer unit => (layout.wrap code layer unit).2.1
  | .takePadding => { layout with padding := none }
  | .setBounds bounds => { layout with bounds := bounds }
  | .setEnabled isEnabled => { layout with isEnabled := isEnabled }
  | .setFixSize shouldFixSize => { layout with shouldFixSize := shouldFixSize }
  | .setExpand shouldExpand => { layout with shouldExpand := shouldExpand }

omit [Scalar α] in
/-- Without a type, alignment and padding nothing has to fit. -/
theorem isConsistent_of_plain {layout : Layout α} (type : layout.type = .none)
    (alignment : layout.alignment = none) (padding : layout.padding = none)
    (rigid : layout.isResponsive = false) : layout.IsConsistent := by
  constructor <;> simp [type, alignment, padding, rigid]

theorem calculate_isConsistent (layout : Layout α) (input : LayoutInput α) :
    (layout.calculate input).IsConsistent := by
  unfold calculate
  dsimp only
  split
  case h_1 => exact isConsistent_of_plain rfl rfl rfl rfl
  case h_2 parent _ =>
    have classified := (classified_classify
      { (initial : Layout α) with
        isEnabled := layout.isEnabled
        input := input
        parentBounds := some parent.content
        bounds := input.bounds
        direction := directionOf parent.stack } parent).isConsistent ⟨rfl, rfl, rfl, rfl, rfl⟩
    exact { classified with }

theorem ofInput_isConsistent (input : LayoutInput α) : (ofInput input).IsConsistent :=
  calculate_isConsistent _ input

theorem reset_isConsistent (layout : Layout α) (isFixedSize : Bool) :
    (layout.reset isFixedSize).IsConsistent :=
  isConsistent_of_plain rfl rfl rfl rfl

namespace IsConsistent

variable {layout : Layout α} (consistent : layout.IsConsistent)

include consistent

omit [Scalar α] in
theorem takePadding : IsConsistent { layout with padding := none } :=
  { consistent with padded := fun known => absurd known Bool.false_ne_true }

theorem wrap (code : String) (layer : LayerInfo α) (unit : String) :
    (layout.wrap code layer unit).2.1.IsConsistent := by
  unfold Layout.wrap
  split
  case isTrue => exact { consistent with }
  case isFalse => exact consistent

/-- Every step keeps a layout consistent. -/
theorem after (step : LayoutStep α) : (layout.after step).IsConsistent := by
  cases step with
  | calculate input => exact calculate_isConsistent layout input
  | recalculate bounds => exact calculate_isConsistent layout _
  | reset isFixedSize => exact reset_isConsistent layout isFixedSize
  | wrap code layer unit => exact consistent.wrap code layer unit
  | takePadding => exact consistent.takePadding
  | setBounds bounds => exact { consistent with }
  | setEnabled isEnabled => exact { consistent with }
  | setFixSize shouldFixSize => exact { consistent with }
  | setExpand shouldExpand => exact { consistent with }

/-- So does every run of steps. -/
theorem foldl_after (steps : List (LayoutStep α)) :
    (steps.foldl Layout.after layout).IsConsistent := by
  induction steps generalizing layout with
  | nil => exact consistent
  | cons step rest ih => exact ih (consistent.after step)

end IsConsistent

end Layout

/-! ### Diagnostics -/

/-- What is noted when a layout is written without the alignment that it asks for. -/
def Diagnostic.IsMisalignment (entry : Diagnostic) : Prop :=
  entry.severity = .error ∧ entry.message = "Align layout without an alignment"

/-- No entry says that an alignment was missing. -/
def Log.IsAligned (log : Log) : Prop :=
  ∀ entry ∈ log, ¬entry.IsMisalignment

namespace Log.IsAligned

theorem nil : Log.IsAligned [] :=
  fun _ absent => absurd absent List.not_mem_nil

theorem append {first second : Log} (one : first.IsAligned) (other : second.IsAligned) :
    Log.IsAligned (first ++ second) :=
  fun entry member => (List.mem_append.mp member).elim (one entry) (other entry)

theorem cons {entry : Diagnostic} {log : Log} (one : entry.severity = .warning)
    (other : log.IsAligned) : Log.IsAligned (entry :: log) := by
  refine List.forall_mem_cons.mpr ⟨fun misaligned => ?_, other⟩
  rw [misaligned.1] at one
  cases one

theorem warning (message : String) (layer : Option (LayerInfo α)) :
    (Log.note .warning message layer []).IsAligned :=
  cons rfl nil

theorem error {message : String} (other : message ≠ "Align layout without an alignment")
    (layer : Option (LayerInfo α)) : (Log.note .error message layer []).IsAligned := by
  intro entry member misaligned
  rw [List.mem_singleton.mp member] at misaligned
  exact other misaligned.2

theorem ite {condition : Prop} [Decidable condition] {first second : Log}
    (yes : first.IsAligned) (no : second.IsAligned) :
    Log.IsAligned (if condition then first else second) := by
  split
  · exact yes
  · exact no

end Log.IsAligned

namespace Layout

variable [Scalar α]

theorem transformed_log_isAligned (layout : Layout α) (code : String) (layer : LayerInfo α) :
    (layout.transformed code layer).2.IsAligned := by
  unfold transformed
  dsimp only
  split
  · exact Log.IsAligned.nil
  · split
    · exact Log.IsAligned.warning _ _
    · split
      · exact Log.IsAligned.nil
      · exact Log.IsAligned.nil

/-- A consistent layout has the alignment that it asks for. -/
theorem IsConsistent.placed_log_isAligned {layout : Layout α} (consistent : layout.IsConsistent)
    (code unit : String) (layer : LayerInfo α) : (layout.placed code unit layer).2.IsAligned := by
  unfold placed
  split
  case h_4 type =>
    obtain ⟨alignment, known⟩ := Option.isSome_iff_exists.mp (consistent.aligned (Or.inr type))
    rw [known]
    exact Log.IsAligned.nil
  all_goals exact Log.IsAligned.nil

theorem IsConsistent.wrap_log_isAligned {layout : Layout α} (consistent : layout.IsConsistent)
    (code unit : String) (layer : LayerInfo α) : (layout.wrap code layer unit).2.2.IsAligned := by
  unfold Layout.wrap
  split
  case isTrue =>
    exact (transformed_log_isAligned layout code layer).append
      (consistent.placed_log_isAligned _ unit layer)
  case isFalse => exact Log.IsAligned.nil

end Layout

end Consistent

/-! ### Pending sizes

Layouts of which nothing has been written yet. A fixed size is pending in them, and
only in a parent they place a layer at all. -/

variable {α : Type}

/-- A layout as it comes out of a classification. -/
structure Layout.IsPending (layout : Layout α) : Prop where
  size : layout.shouldFixSize = layout.isFixedSize
  placed : layout.isEnabled = true → layout.input.parent.isSome
  bounded : layout.input.parent.isSome → layout.bounds.isSome
  /-- In a row or column a fixed size goes with the margins. -/
  stacked : layout.direction ≠ .both → layout.isFixedSize = true → layout.type = .pinned

namespace Layout

theorem IsPending.direction_eq {layout : Layout α} (pending : layout.IsPending)
    (fixed : layout.isFixedSize = true) (unpinned : layout.type ≠ .pinned) :
    layout.direction = .both := by
  by_contra along
  exact unpinned (pending.stacked along fixed)

/-- A classification is about the type, and looks at nothing else for it. -/
theorem Classified.keeps {layout classified : Layout α} (result : layout.Classified classified) :
    classified.isEnabled = layout.isEnabled ∧ classified.direction = layout.direction ∧
      classified.bounds = layout.bounds ∧ classified.input = layout.input := by
  cases result <;> exact ⟨rfl, rfl, rfl, rfl⟩

variable [Scalar α] {layout : Layout α} {input : LayoutInput α}

theorem isEnabled_calculate {parent : ParentFrame α} (known : input.parent = some parent) :
    (layout.calculate input).isEnabled = layout.isEnabled := by
  unfold calculate
  dsimp only
  rw [known]
  exact (classified_classify _ parent).keeps.1

theorem bounds_calculate {parent : ParentFrame α} (known : input.parent = some parent) :
    (layout.calculate input).bounds = input.bounds := by
  unfold calculate
  dsimp only
  rw [known]
  exact (classified_classify _ parent).keeps.2.2.1

theorem direction_calculate {parent : ParentFrame α} (known : input.parent = some parent) :
    (layout.calculate input).direction = directionOf parent.stack := by
  unfold calculate
  dsimp only
  rw [known]
  exact (classified_classify _ parent).keeps.2.1

theorem input_calculate : (layout.calculate input).input = input := by
  unfold calculate
  dsimp only
  split
  case h_1 => rfl
  case h_2 parent known => exact (classified_classify _ parent).keeps.2.2.2

theorem size_calculate : (layout.calculate input).shouldFixSize = (layout.calculate input).isFixedSize := by
  unfold calculate
  dsimp only
  split <;> rfl

/-- A child of a stack stretches, or it is pinned. -/
theorem classify_of_stack {parent : ParentFrame α} (stacked : parent.stack.isSome)
    (rigid : layout.isFixedSize = false) :
    (classify layout parent).isFixedSize = true → (classify layout parent).type = .pinned := by
  obtain ⟨orientation, stack⟩ := Option.isSome_iff_exists.mp stacked
  unfold classify
  dsimp only
  rw [stack]
  dsimp only
  split
  case isTrue =>
    intro fixed
    change layout.isFixedSize = true at fixed
    rw [rigid] at fixed
    cases fixed
  case isFalse => exact fun _ => rfl

theorem stacked_calculate (along : (layout.calculate input).direction ≠ .both)
    (fixed : (layout.calculate input).isFixedSize = true) :
    (layout.calculate input).type = .pinned := by
  unfold calculate at along fixed ⊢
  dsimp only at along fixed ⊢
  split at along
  case h_1 => exact absurd rfl along
  case h_2 parent known =>
    rw [known] at fixed
    dsimp only at fixed
    have stacked : parent.stack.isSome := by
      cases stack : parent.stack with
      | some orientation => rfl
      | none =>
          refine absurd ?_ along
          rw [(classified_classify _ parent).keeps.2.1, stack]
          rfl
    exact classify_of_stack stacked rfl fixed

theorem calculate_isPending (layout : Layout α)
    (bounded : input.parent.isSome → input.bounds.isSome) : (layout.calculate input).IsPending where
  size := size_calculate
  placed := by
    intro enabled
    rw [input_calculate]
    cases known : input.parent with
    | some parent => rfl
    | none =>
        unfold calculate at enabled
        dsimp only at enabled
        rw [known] at enabled
        cases enabled
  bounded := by
    intro placed
    rw [input_calculate] at placed
    obtain ⟨parent, known⟩ := Option.isSome_iff_exists.mp placed
    rw [bounds_calculate known]
    exact bounded placed
  stacked := stacked_calculate

section Recalculating

variable {parent : ParentFrame α} (known : layout.input.parent = some parent) (bounds : Rect α)

include known

theorem isEnabled_recalculateWithBounds :
    (layout.recalculateWithBounds bounds).isEnabled = layout.isEnabled :=
  isEnabled_calculate known

theorem bounds_recalculateWithBounds :
    (layout.recalculateWithBounds bounds).bounds = some bounds :=
  bounds_calculate known

end Recalculating

end Layout

end DesignExport
