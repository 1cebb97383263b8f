import DesignExport.Proofs.Export.Sizes
import DesignExport.Proofs.Expression.Present
set_option autoImplicit false

/-! The boxes of pictures. A shape is in a box of the size of all that it draws, but not if a
template wants nothing of its layout but the size: then the box has the size of the layer that
the shape was before others were merged into it. -/

namespace DesignExport

open Wrapper (wrapAll)

variable {α : Type}

namespace NodeInfo

variable [Scalar α]

/-- The size of what a shape draws. -/
def footprint? (node : NodeInfo α) : Option (α × α) :=
  match node.kind with
  | .shape shape => some shape.boundsInParent.size
  | .widgetRoot | .box | .group _ | .text => none

variable {node : NodeInfo α} {shape : ShapeUnit α}

theorem exists_of_footprint? {size : α × α} (known : node.footprint? = some size) :
    ∃ shape, node.kind = .shape shape ∧ shape.boundsInParent.size = size := by
  unfold footprint? at known
  split at known
  case h_1 shape kind => exact ⟨shape, kind, Option.some.inj known⟩
  all_goals cases known

/-- A picture of fixed size does not say how it fills its box. -/
theorem ownCode_of_shape (kind : node.kind = .shape shape) (fixed : node.drawnLayout.isFixedSize = true)
    (children : List (Child α)) (context : Context α) (size : Option (α × α))
    (margin : Option (EdgeInsets α)) : ∃ data, node.ownCode children context size margin =
      "SvgPicture.string(" ++ data ++ ", allowDrawingOutsideViewBox: true, " ++ ")" := by
  rw [drawnLayout, kind] at fixed
  refine ⟨((Picture.source shape).run context).1.1, ?_⟩
  have body : node.ownCode children context size margin =
      ((Picture.write node.layout shape).run context).1.1 := by
    simp only [ownCode, writeBody, kind]
    rfl
  rw [body, Picture.write, Compile.run_bind]
  dsimp only
  rw [Compile.run_bind, if_pos fixed]
  rfl

theorem statedSizes_of_shape (kind : node.kind = .shape shape) (unit : String) :
    node.statedSizes unit = node.drawnLayout.statedSize?.toList := by
  refine statedSizes_of_left (kind.trans_ne nofun) ?_ unit
  rw [isRendered, kind]

section Edited

variable {edit : LayoutEdit} (kind : node.kind = .shape shape) (pending : node.layout.IsPending)
  (enabled : (node.edited edit).layout.isEnabled = true)
  (fixed : (node.edited edit).drawnLayout.isFixedSize = true)
  (unpinned : (node.edited edit).drawnLayout.type ≠ .pinned)

include kind pending enabled fixed unpinned

/-- A shape that knows its parent is placed anew before it is put into its box. -/
theorem statedSizes_of_parent (other : edit ≠ .inTemplate .size) (unit : String) :
    (node.edited edit).statedSizes unit = [shape.boundsInParent.size] := by
  have same : (node.edited edit).kind = .shape shape := kind
  have placed : (node.edited edit).layout.input.parent.isSome := by
    cases edit with
    | asDesigned | asCell => exact pending.placed enabled
    | inTemplate wanted =>
        cases wanted with
        | asDesigned => exact pending.placed enabled
        | none => cases enabled
        | size => exact absurd rfl other
  obtain ⟨parent, known⟩ := Option.isSome_iff_exists.mp placed
  have drawn := drawnLayout_of_parent same known
  have fixing : (node.edited edit).drawnLayout.shouldFixSize = true := by
    rw [drawn] at fixed ⊢
    exact Layout.size_calculate.trans fixed
  rw [statedSizes_of_shape same, Layout.statedSize?, fixing, Bool.true_and,
    if_pos (decide_eq_true unpinned), drawn, Layout.bounds_recalculateWithBounds known]
  rfl

omit pending enabled fixed unpinned in
/-- With nothing but a size there is no parent to be placed in. -/
theorem statedSizes_of_size (unit : String) : (node.edited (.inTemplate .size)).statedSizes unit =
    (node.layout.bounds.map Rect.size).toList := by
  have same : (node.edited (.inTemplate .size)).kind = .shape shape := kind
  rw [statedSizes_of_shape same, drawnLayout_of_no_parent rfl]
  rfl

end Edited

end NodeInfo

section Stating

variable [Scalar α] {document : Document α} {settings : Settings} {tree part : Node α}
  {ready : Context α} {edit : LayoutEdit} {shape : ShapeUnit α}

/-- The box around a picture has the size of all that the picture draws, merged layers included,
unless a template wants the layout to be nothing but a size. Then it has the size of the layer
that the parent has placed. -/
theorem Document.Writes.boxes_shape (writes : document.Writes settings tree ready)
    (gives : tree.Gives part edit) (kind : part.kind = .shape shape)
    (enabled : (part.edited edit).layout.isEnabled = true)
    (fixed : (part.edited edit).drawnLayout.isFixedSize = true)
    (unpinned : (part.edited edit).drawnLayout.type ≠ .pinned) (context : Context α) :
    let node := part.edited edit
    let unit := context.settings.widthUnit
    (∃ data, ((node.writeInline (Node.asChildren part.children)).run context).1.1 =
      node.layer.commented context.settings (wrapAll unit (node.wrappers unit)
        ("SvgPicture.string(" ++ data ++ ", allowDrawingOutsideViewBox: true, " ++ ")"))) ∧
      node.statedSizes unit = (node.wrappers unit).filterMap Wrapper.size? ∧
      (edit ≠ .inTemplate .size → node.statedSizes unit = [shape.boundsInParent.size]) ∧
      (edit = .inTemplate .size → node.statedSizes unit = (part.layout.bounds.map Rect.size).toList ∧
        (document.HasDistinctGuids → ∃ parent ∈ tree.parts, part ∈ parent.children ∧
          part.layout.bounds = some ((ParentFrame.ofLayer parent.layer).place part.layer))) := by
  intro node unit
  have same : node.kind = .shape shape := kind
  have sized : node.isSized = true := by rw [NodeInfo.isSized, same]
  have pending : part.layout.IsPending := writes.hasPendingLayouts part gives.mem_parts
  refine ⟨?_, ?_, fun other => ?_, fun reset => ?_⟩
  · obtain ⟨data, own⟩ := node.ownCode_of_shape same fixed (Node.asChildren part.children) context
      node.ownSize? node.ownMargin?
    have body : ((node.writeBody (Node.asChildren part.children)).run context).1.1 =
        "SvgPicture.string(" ++ data ++ ", allowDrawingOutsideViewBox: true, " ++ ")" :=
      ((NodeInfo.writeBody_run sized _ context).1).trans own
    have filled : ((node.writeBody (Node.asChildren part.children)).run context).1.1 ≠ "" := by
      rw [body]
      exact append_ne_empty_of_right _ (by decide)
    exact ⟨data, (NodeInfo.writeInline_run_code part.children context sized enabled filled unpinned).trans
      (by rw [own])⟩
  · rw [NodeInfo.statedSizes, NodeInfo.ownSize?, same]
    rfl
  · exact NodeInfo.statedSizes_of_parent kind pending enabled fixed unpinned other unit
  · subst reset
    refine ⟨NodeInfo.statedSizes_of_size kind unit, fun distinct => ?_⟩
    cases gives with
    | @child parent _ _ inside member edits =>
        refine ⟨parent, inside, member, ?_⟩
        rw [writes.isLaidOut distinct parent inside part member, Layout.bounds_within]

end Stating

/-! ### An icon in a template -/

/-- An icon of two lines, which are drawn as one, with a template for them. -/
def linedPage (template : String) : Layer Rat :=
  let line (guid name : String) (left : Rat) : Layer Rat :=
    ⟨{ LayerInfo.usual guid name (.path "M0 0L50 50") with
        hasDefaultName := true, localBounds := ⟨left, 0, 50, 50⟩ }, []⟩
  let icon : LayerInfo Rat :=
    { LayerInfo.usual "icon" "Icon" .group with
      hasDefaultName := true
      localBounds := ⟨0, 0, 110, 50⟩
      properties := [("exportMode", .text "custom"), ("customCode", .text template)] }
  ⟨{ LayerInfo.usual "home" "Home" .artboard with
      hasDefaultName := true, localBounds := ⟨0, 0, 375, 812⟩ },
    [⟨icon, [line "body" "Body" 0, line "tail" "Tail" 60]⟩]⟩

def plainTemplate : String :=
  "Stack(children: [<CHILDREN>])"

/-- A template that wants nothing but the size of what is put into it. -/
def resettingTemplate : String :=
  "Stack(children: [<CHILDREN\x7b\"layout\":\"size\"\x7d>])"

def linedDocument (template : String) : Document Rat :=
  ⟨[], [linedPage template], ⟨[], []⟩⟩

def linedStart (template : String) : Context Rat :=
  Context.start (Index.ofDocument (linedDocument template)) {} .clipboard

def linedTree (template : String) : Node Rat :=
  ((widgetTree (linedPage template)).run (linedStart template)).1

theorem writes_linedTree (template : String) : ∃ ready,
    (linedDocument template).Writes {} (linedTree template) ready :=
  ⟨_, Document.Writes.run_widgetTree List.mem_cons_self (Context.serves_start .clipboard)⟩

/-- Both lines are in a box that is as large as they are together. -/
theorem Document.Writes.boxes_shape_linedDocument :
    ∃ icon ∈ (linedTree plainTemplate).children, ∃ part ∈ icon.children, ∃ shape, part.kind = .shape shape ∧
      shape.boundsInParent.size = (110, 50) ∧
      (part.edited (.inTemplate .asDesigned)).statedSizes "" = [(110, 50)] := by
  have facts : ∃ icon ∈ (linedTree plainTemplate).children, icon.mode = .custom ∧
      icon.placeholder? = some .children ∧
      ∃ part ∈ icon.children, part.footprint? = some (110, 50) ∧
        (part.edited (.inTemplate .asDesigned)).layout.isEnabled = true ∧
        (part.edited (.inTemplate .asDesigned)).drawnLayout.isFixedSize = true ∧
        (part.edited (.inTemplate .asDesigned)).drawnLayout.type ≠ .pinned := by
    decide +kernel
  obtain ⟨icon, member, custom, place, part, inside, footprint, enabled, fixed, unpinned⟩ := facts
  obtain ⟨shape, kind, size⟩ := NodeInfo.exists_of_footprint? footprint
  obtain ⟨ready, writes⟩ := writes_linedTree plainTemplate
  have above : icon ∈ (linedTree plainTemplate).parts :=
    Node.mem_parts.mpr (Or.inr ⟨icon, member, (Node.Reaches.self icon).mem_parts⟩)
  have gives : (linedTree plainTemplate).Gives part (.inTemplate .asDesigned) :=
    .child above inside (.inTemplate custom place .asDesigned)
  have boxed := writes.boxes_shape gives kind enabled fixed unpinned (linedStart plainTemplate)
  refine ⟨icon, member, part, inside, shape, kind, size, ?_⟩
  rw [← size]
  exact boxed.2.2.1 (by decide)

/-- With nothing but the size wanted, the picture of both lines is in the box of the first one. -/
theorem resets_linedDocument :
    (∃ ready, (linedDocument resettingTemplate).Writes {} (linedTree resettingTemplate) ready) ∧
    (∃ part, (linedTree resettingTemplate).Gives part (.inTemplate .size) ∧ part.footprint? = some (110, 50) ∧
      (part.edited (.inTemplate .size)).layout.isEnabled = true ∧
      (part.edited (.inTemplate .size)).drawnLayout.isFixedSize = true ∧
      (part.edited (.inTemplate .size)).drawnLayout.type = .none ∧
      (part.edited (.inTemplate .size)).statedSizes "" = [(50, 50)]) ∧
    ((linedDocument resettingTemplate).copySelected {} "icon").toOption.map (·.code) =
      some ("Stack(children: [SizedBox(width: 50, height: 50, child: SvgPicture.string(" ++
        "'<svg viewBox=\"0 0 110 50\" ><path d=\"M0 0L50 50\" fill=\"none\" stroke=\"none\" />" ++
        "<path transform=\"translate(60, 0)\" d=\"M0 0L50 50\" fill=\"none\" stroke=\"none\" /></svg>', " ++
        "allowDrawingOutsideViewBox: true, ), ), ])") := by
  refine ⟨writes_linedTree resettingTemplate, ?_, by decide +kernel⟩
  have facts : ∃ icon ∈ (linedTree resettingTemplate).children, icon.mode = .custom ∧
      icon.placeholder? = some .children ∧
      ∃ part ∈ icon.children, part.footprint? = some (110, 50) ∧
        (part.edited (.inTemplate .size)).layout.isEnabled = true ∧
        (part.edited (.inTemplate .size)).drawnLayout.isFixedSize = true ∧
        (part.edited (.inTemplate .size)).drawnLayout.type = .none ∧
        (part.edited (.inTemplate .size)).statedSizes "" = [(50, 50)] := by
    decide +kernel
  obtain ⟨icon, member, custom, place, part, inside, rest⟩ := facts
  have above : icon ∈ (linedTree resettingTemplate).parts :=
    Node.mem_parts.mpr (Or.inr ⟨icon, member, (Node.Reaches.self icon).mem_parts⟩)
  exact ⟨part, .child above inside (.inTemplate custom place .size), rest⟩

end DesignExport
