import DesignExport.Expression.Node
import DesignExport.Proofs.Compile.Keeps
import DesignExport.Proofs.Tree.Reach
set_option autoImplicit false

/-! What becomes of code once it is written, and which nodes have code at all. Edits of
finished code take little away, and never all of it. -/

namespace DesignExport

section Edits

open Compile (Yields)

/-- A property of code that no edit of finished code takes away. -/
structure SurvivesEdits (shows : String → Prop) : Prop where
  before (front : String) {code : String} (shown : shows code) : shows (front ++ code)
  behind (back : String) {code : String} (shown : shows code) : shows (code ++ back)
  commented {α : Type} (layer : LayerInfo α) {code : String} (shown : shows code) :
    shows (layerComment code layer)
  centered {code : String} (shown : shows code) :
    shows (Text.replaceFirst "CrossAxisAlignment.start" "CrossAxisAlignment.center" code)
  decorated (decoration : String) {code : String} (shown : shows code) :
    shows (Group.decorated decoration code)

variable {α : Type} {shows : String → Prop}

namespace SurvivesEdits

variable (survives : SurvivesEdits shows) {code : String} (shown : shows code)

include survives shown

theorem between (front back : String) : shows (front ++ code ++ back) :=
  survives.behind back (survives.before front shown)

/-! ### Layouts -/

section Layout

variable [Scalar α] (layout : Layout α) (layer : LayerInfo α) (unit : String)

theorem transformed : shows (layout.transformed code layer).1 := by
  unfold Layout.transformed
  dsimp only
  split
  · exact shown
  · split
    · exact shown
    · split
      · exact survives.between shown _ _
      · exact survives.between shown _ _

theorem sized : shows (layout.sized code unit) := by
  unfold Layout.sized Layout.sizedBox
  split
  · split
    · exact shown
    · split
      · exact survives.between shown _ _
      · exact shown
  · split
    · exact survives.between shown _ _
    · exact shown

theorem padded : shows (layout.padded code unit) := by
  unfold Layout.padded
  split
  · exact survives.between shown _ _
  · exact shown

theorem moved : shows (layout.moved code unit) := by
  unfold Layout.moved
  split
  · exact shown
  · split
    · exact shown
    · exact survives.between shown _ _

theorem withMargins (margins : List (String × α)) : shows (Layout.withMargins code unit margins) := by
  unfold Layout.withMargins
  split
  · exact shown
  · exact survives.between shown _ _

theorem pinned : shows (layout.pinned code unit) := by
  have centered {condition : Prop} [Decidable condition] :
      shows (if condition then
        Text.replaceFirst "CrossAxisAlignment.start" "CrossAxisAlignment.center" code else code) := by
    split
    · exact survives.centered shown
    · exact shown
  unfold Layout.pinned
  split
  · split
    · exact shown
    · exact survives.withMargins centered unit _
  · exact shown

theorem placed : shows (layout.placed code unit layer).1 := by
  unfold Layout.placed
  split
  · exact shown
  · exact survives.moved shown layout unit
  · exact survives.between shown _ _
  · split
    · exact survives.between shown _ _
    · exact shown
  · exact survives.pinned shown layout unit

theorem wrap : shows (layout.wrap code layer unit).1 := by
  unfold Layout.wrap
  split
  · have turned := survives.transformed shown layout layer
    have boxed := survives.padded (survives.sized turned layout unit) layout unit
    exact survives.placed boxed layout layer unit
  · exact shown

end Layout

/-! ### Decorators -/

section Decorators

variable [Scalar α]

theorem apply (decorator : Decorator α) : Yields (decorator.apply code) shows := by
  cases decorator with
  | tap callback => exact Yields.pure (survives.between shown _ _)
  | pageLink widget transition =>
      exact Yields.bind_any fun _ => Yields.pure (survives.between shown _ _)
  | blur amount => exact Yields.bind_any fun _ => Yields.pure (survives.between shown _ _)

omit shown in
theorem applyAll (decorators : List (Decorator α)) :
    ∀ {code : String}, shows code → Yields (Decorator.applyAll code decorators) shows := by
  induction decorators with
  | nil => exact fun shown => Yields.pure shown
  | cons decorator rest ih =>
      exact fun shown => Yields.bind (survives.apply shown decorator) fun _ more => ih more

theorem decorate (node : NodeInfo α) : Yields (node.decorate code) (fun result => shows result.1) := by
  refine Yields.bind_any fun settings => ?_
  have placed := survives.wrap shown node.layout node.layer settings.widthUnit
  refine Yields.bind_any fun _ => ?_
  refine Yields.bind (survives.applyAll node.decorators placed) fun decorated written => ?_
  exact Yields.ite (fun _ => Yields.pure (survives.commented node.layer written))
    fun _ => Yields.pure written

end Decorators

end SurvivesEdits

end Edits

/-! ### Nodes with code

Which nodes have code at all. A group without children has none; every other node
that can be written has some, and no layout, decorator or comment takes it away. -/

open Compile (Yields)

variable {α : Type}

/-! ### Texts that are not empty -/

theorem append_ne_empty_of_left {first : String} (text : first ≠ "") (second : String) :
    first ++ second ≠ "" :=
  fun empty => text (String.append_eq_empty_iff.mp empty).1

theorem append_ne_empty_of_right (first : String) {second : String} (text : second ≠ "") :
    first ++ second ≠ "" :=
  fun empty => text (String.append_eq_empty_iff.mp empty).2

theorem isEmpty_eq_false {code : String} (text : code ≠ "") : code.isEmpty = false :=
  Bool.eq_false_iff.mpr fun empty => text (String.isEmpty_iff.mp empty)

theorem layerComment_ne_empty (code : String) (layer : LayerInfo α) :
    layerComment code layer ≠ "" := by
  have line (rest : String) : "// Layer: '" ++ rest ≠ "" :=
    append_ne_empty_of_left (by decide) rest
  unfold layerComment
  dsimp only
  split
  · refine append_ne_empty_of_left (append_ne_empty_of_left ?_ _) _
    exact append_ne_empty_of_right _ (by decide)
  · simp only [String.append_assoc]
    exact line _

namespace Group

theorem decorated_ne_empty (decoration code : String) : decorated decoration code ≠ "" := by
  unfold decorated
  split
  · refine append_ne_empty_of_left ?_ _
    exact append_ne_empty_of_right _ (by decide)
  · exact append_ne_empty_of_right _ (by decide)

end Group

theorem survivesEdits_ne_empty : SurvivesEdits (· ≠ "") where
  before front _ text := append_ne_empty_of_right front text
  behind back _ text := append_ne_empty_of_left text back
  commented layer code _ := layerComment_ne_empty code layer
  centered := by
    intro code text
    unfold Text.replaceFirst
    split
    · exact append_ne_empty_of_left (append_ne_empty_of_right _ (by decide)) _
    · exact text
  decorated decoration code _ := Group.decorated_ne_empty decoration code

theorem NodeInfo.decorate_yields [Scalar α] (node : NodeInfo α) {code : String} (text : code ≠ "") :
    Yields (decorate node code) (fun result => result.1 ≠ "") :=
  survivesEdits_ne_empty.decorate text node

/-! ### The kinds of nodes -/

theorem Child.writeStack_yields (children : List (Child α)) :
    Yields (Child.writeStack children) (fun result => result.1 ≠ "") :=
  Yields.bind_any fun _ => Yields.pure (append_ne_empty_of_right _ (by decide))

section Kinds

variable [Scalar α]

theorem Box.write_yields (node : NodeInfo α) :
    Yields (Box.write node) (fun result => result.1 ≠ "") := by
  refine Yields.bind_any fun settings => Yields.bind_any fun decoration => ?_
  refine Yields.ite (fun _ => Yields.pure ?_) fun _ => Yields.pure ?_
  · exact append_ne_empty_of_right _ (by decide)
  · exact append_ne_empty_of_right _ (by decide)

namespace Label

theorem widened_ne_empty (layout : Layout α) (block : TextBlock α) {code : String}
    (text : code ≠ "") : (widened layout block code).1 ≠ "" := by
  unfold widened
  split
  · exact text
  · split
    · exact text
    · split
      · exact text
      · exact append_ne_empty_of_right _ (by decide)

theorem place_ne_empty (layout : Layout α) (block : TextBlock α) {code : String}
    (text : code ≠ "") : (place layout block code).1 ≠ "" := by
  unfold place
  split
  · exact text
  · split
    · exact widened_ne_empty layout block text
    · exact text

theorem write_yields {node : NodeInfo α} (label : ∃ block, node.layer.kind = .text block) :
    Yields (write node) (fun result => result.1 ≠ "") := by
  obtain ⟨block, known⟩ := label
  have flat (context : TextContext α) : Yields (flat node block context) (· ≠ "") :=
    Yields.bind_any fun _ => Yields.bind_any fun _ =>
      Yields.pure (append_ne_empty_of_right _ (by decide))
  have rich (context : TextContext α) : Yields (rich block context) (· ≠ "") :=
    Yields.bind_any fun _ => Yields.bind_any fun _ =>
      Yields.pure (append_ne_empty_of_right _ (by decide))
  have last {code : String} (text : code ≠ "") : Yields
      (pure (place node.layout block (if block.isClipped then Scroll.vertical code else code)) :
        Compile α (String × Layout α)) (fun result => result.1 ≠ "") := by
    refine Yields.pure (place_ne_empty _ _ ?_)
    split
    · exact append_ne_empty_of_right _ (by decide)
    · exact text
  unfold write
  rw [known]
  refine Yields.bind_any fun _ => Yields.bind_any fun context => ?_
  refine Yields.ite (fun _ => ?_) fun _ => ?_
  · exact Yields.bind (flat context) fun _ text => last text
  · exact Yields.bind (rich context) fun _ text => last text

end Label

theorem Picture.write_yields (layout : Layout α) (unit : ShapeUnit α) :
    Yields (Picture.write layout unit) (fun result => result.1 ≠ "") := by
  refine Yields.bind_any fun data => Yields.bind_any fun _ => ?_
  exact Yields.ite (fun _ => Yields.pure (append_ne_empty_of_right _ (by decide)))
    fun _ => Yields.pure (append_ne_empty_of_right _ (by decide))

theorem Root.write_yields (node : NodeInfo α) (children : List (Child α)) :
    Yields (Root.write node children) (fun result => result.1 ≠ "") := by
  unfold Root.write
  split
  · refine Yields.bind_any fun color => Yields.bind_any fun body => Yields.pure ?_
    exact append_ne_empty_of_right _ (by decide)
  · exact Child.writeStack_yields children

namespace Group

theorem writeRendered_yields (node : NodeInfo α) :
    Yields (writeRendered node) (fun result => result.1 ≠ "") :=
  Yields.bind_any fun _ => Yields.bind_any fun _ =>
    Yields.pure (append_ne_empty_of_right _ (by decide))

theorem padded_ne_empty (layer : LayerInfo α) {code : String} (text : code ≠ "") (unit : String) :
    padded layer code unit ≠ "" := by
  unfold padded
  split
  · exact append_ne_empty_of_right _ (by decide)
  · exact text

theorem onBackground_yields (layer : LayerInfo α) (code unit : String) :
    Yields (onBackground layer code unit) (· ≠ "") := by
  unfold onBackground
  refine Yields.ite_skip (Yields.bind_any fun opacity => ?_)
  dsimp only
  split
  · exact Yields.bind_any fun _ => Yields.bind_any fun _ => Yields.pure (decorated_ne_empty _ _)
  · exact Yields.bind_any fun _ => Yields.bind_any fun _ => Yields.pure (decorated_ne_empty _ _)

/-- Without a background there is a list around the children. -/
theorem writeChildren_yields (node : NodeInfo α) (children : List (Child α)) :
    Yields (writeChildren node false children) (fun result => result.1 ≠ "") := by
  unfold writeChildren
  split
  · refine Yields.bind_any fun settings => Yields.bind_any fun cells => Yields.pure ?_
    exact append_ne_empty_of_right _ (by decide)
  · exact Child.writeStack_yields children

theorem writeContent_yields (node : NodeInfo α) (first : Child α) (rest : List (Child α)) :
    Yields (writeContent node first rest) (fun result => result.1 ≠ "") := by
  refine Yields.bind_any fun settings => Yields.bind_any fun _ => ?_
  refine Yields.ite (fun _ => ?_) fun _ => ?_
  · refine Yields.bind_any fun written => ?_
    exact Yields.bind (onBackground_yields _ _ _) fun _ text => Yields.pure text
  · refine Yields.bind (writeChildren_yields node _) fun written text => Yields.pure ?_
    exact padded_ne_empty _ text _

theorem view_ne_empty (code : String) (direction : ScrollDirection) :
    Scroll.view code direction ≠ "" := by
  cases direction with
  | vertical | horizontal | panning => exact append_ne_empty_of_right _ (by decide)

end Group

end Kinds

namespace NodeInfo

variable [Scalar α] {node : NodeInfo α} {children : List (Child α)}

section Present

variable (label : node.kind = .text → ∃ block, node.layer.kind = .text block)
  (present : node.isEmptyGroup (Child.nodes children) = false)

include label present

/-- A node that can be written and is no empty group has code. -/
theorem writeBody_yields :
    Yields (writeBody node children) (fun result => result.1 ≠ "") := by
  unfold writeBody
  split
  case h_1 => exact Yields.bind (Root.write_yields node children) fun _ text => Yields.pure text
  case h_2 => exact Yields.bind (Box.write_yields node) fun _ text => Yields.pure text
  case h_3 text => exact Yields.bind (Label.write_yields (label text)) fun _ text => Yields.pure text
  case h_4 unit _ =>
    exact Yields.bind (Picture.write_yields node.layout unit) fun _ text => Yields.pure text
  case h_5 kind group =>
    split
    case isTrue =>
      exact Yields.bind (Group.writeRendered_yields node) fun _ text => Yields.pure text
    case isFalse notMarked =>
      cases kind with
      | instanceOf widget => exact Yields.pure (append_ne_empty_of_right _ (by decide))
      | plain =>
          cases children with
          | nil =>
              rw [isEmptyGroup, isDrawnGroup, group, Bool.eq_false_iff.mpr notMarked] at present
              cases present
          | cons first rest =>
              exact Yields.bind (Group.writeContent_yields node first rest) fun _ text =>
                Yields.pure text
      | scroll direction =>
          cases children with
          | nil =>
              rw [isEmptyGroup, isDrawnGroup, group, Bool.eq_false_iff.mpr notMarked] at present
              cases present
          | cons first rest =>
              refine Yields.bind ?_ fun _ text => Yields.pure text
              exact Yields.bind_any fun _ => Yields.bind_any fun _ =>
                Yields.pure (Group.view_ne_empty _ direction)

theorem writeInline_yields :
    Yields (writeInline node children) (fun result => result.1 ≠ "") := by
  refine Yields.bind (writeBody_yields label present) fun result text => ?_
  dsimp only
  rw [isEmpty_eq_false text]
  exact Yields.bind (decorate_yields _ text) fun _ written => Yields.pure written

end Present

/-- A group without children has no code. -/
theorem writeInline_of_isEmptyGroup (empty : node.isEmptyGroup (Child.nodes children) = true) :
    writeInline node children = pure ("", ⟨node, []⟩) := by
  obtain ⟨drawn, childless⟩ := Bool.and_eq_true_iff.mp empty
  cases children with
  | cons => cases childless
  | nil =>
      unfold isDrawnGroup at drawn
      split at drawn
      next plain =>
        have unmarked : node.layer.isMarkedForExport = false := by simpa using drawn
        rw [writeInline, writeBody, plain, unmarked]
        rfl
      next direction scroll =>
        have unmarked : node.layer.isMarkedForExport = false := by simpa using drawn
        rw [writeInline, writeBody, scroll, unmarked]
        rfl
      next => cases drawn

end NodeInfo

end DesignExport
