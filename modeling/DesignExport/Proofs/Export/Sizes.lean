import DesignExport.Export.Run
import DesignExport.Number.Exact
import DesignExport.Proofs.Export.Aligned
import DesignExport.Proofs.Export.Tables
import DesignExport.Proofs.Expression.Given
import DesignExport.Proofs.Expression.Stated
set_option autoImplicit false

/-! Sizes and paddings in what is exported and copied. A layer with a size of its own states
it once, in its own call or in the widgets of its layout, and so it states its padding. Only
layers that the index places elsewhere than where they are can lose their size. -/

namespace DesignExport

open Wrapper (wrapAll)

variable {α : Type}

namespace NodeInfo

/-! ### What is to be stated -/

/-- A node has lost its size: it is a cell, but its layout is not that of a child of a stack,
or it stands in a template with nothing but its size, and no parent has given it one. Shapes
are placed again before they can lose their size in the first way, boxes know their size in
the second, and what is rendered always does. -/
inductive Strays (node : NodeInfo α) : LayoutEdit → Prop where
  | asCell (free : node.layout.direction = .both) (noShape : node.isShape = false)
      (drawn : node.isRendered = false) : Strays node .asCell
  | sized (unbounded : node.layout.bounds = none) (noBox : node.kind ≠ .box)
      (drawn : node.isRendered = false) : Strays node (.inTemplate .size)

variable [Scalar α]

/-- The size of a node: that of its layer if it stands in the call, else that of its layout. -/
def size? (node : NodeInfo α) : Option (α × α) :=
  if node.isBox || node.isRendered then some node.layer.localBounds.size
  else node.drawnLayout.bounds.map Rect.size

/-- A node states its size once. -/
def StatesSize (node : NodeInfo α) (unit : String) : Prop :=
  ∃ size, node.size? = some size ∧ node.statedSizes unit = [size]

/-- Given to a parent a node states its size once, or it strays and states none. -/
def StatesOrStrays (node : NodeInfo α) (edit : LayoutEdit) (unit : String) : Prop :=
  (node.edited edit).StatesSize unit ∧ ¬node.Strays edit ∨
    (node.edited edit).statedSizes unit = [] ∧ node.Strays edit

section Stating

variable {node : NodeInfo α} {unit : String}

theorem statesSize_of_isRendered (rendered : node.isRendered = true) : node.StatesSize unit := by
  refine ⟨_, ?_, statedSizes_of_isRendered rendered unit⟩
  rw [size?, rendered, Bool.or_true, if_pos rfl]

theorem statesSize_of_box (box : node.kind = .box) (enabled : node.layout.isEnabled = true)
    (pending : node.layout.shouldFixSize = true) : node.StatesSize unit := by
  refine ⟨node.layer.localBounds.size, ?_, ?_⟩
  · rw [size?, isBox_of_box box, Bool.true_or, if_pos rfl]
  · rw [statedSizes_of_box box enabled, if_pos pending]

theorem statesSize_of_left (noBox : node.kind ≠ .box) (drawn : node.isRendered = false)
    (pending : node.drawnLayout.shouldFixSize = true) (unpinned : node.drawnLayout.type ≠ .pinned)
    (bounded : node.drawnLayout.bounds.isSome) : node.StatesSize unit := by
  obtain ⟨bounds, known⟩ := Option.isSome_iff_exists.mp bounded
  have other : node.isBox = false := by
    unfold isBox
    cases kind : node.kind with
    | box => exact absurd kind noBox
    | widgetRoot | group | shape | text => rfl
  refine ⟨bounds.size, ?_, ?_⟩
  · rw [size?, other, drawn, known]
    rfl
  · rw [statedSizes_of_left noBox drawn, Layout.statedSize?, pending, known, if_pos]
    · rfl
    · exact decide_eq_true unpinned

end Stating

/-! ### Layouts that are given -/

section Given

variable {node : NodeInfo α} {edit : LayoutEdit} {unit : String}

/-- Shapes in a parent are placed by it again. -/
theorem drawnLayout_of_parent {shape : ShapeUnit α} {parent : ParentFrame α}
    (kind : node.kind = .shape shape) (known : node.layout.input.parent = some parent) :
    node.drawnLayout = node.layout.recalculateWithBounds
      (shape.boundsInParent.translate (-parent.content.x) (-parent.content.y)) := by
  rw [drawnLayout, kind]
  dsimp only
  rw [Picture.place, known]

theorem drawnLayout_of_no_parent (known : node.layout.input.parent = none) :
    node.drawnLayout = node.layout := by
  unfold drawnLayout
  cases node.kind with
  | widgetRoot | box | group | text => rfl
  | shape =>
      dsimp only
      rw [Picture.place, known]

theorem drawnLayout_of_not_shape (noShape : node.isShape = false) : node.drawnLayout = node.layout := by
  unfold drawnLayout
  cases kind : node.kind with
  | widgetRoot | box | group | text => rfl
  | shape =>
      rw [isShape, kind] at noShape
      cases noShape

theorem statedSizes_edited_of_box (box : node.kind = .box)
    (enabled : (node.edited edit).layout.isEnabled = true) : (node.edited edit).statedSizes unit =
      if (node.edited edit).layout.shouldFixSize then [node.layer.localBounds.size] else [] := by
  have same : (node.edited edit).kind = .box := box
  exact statedSizes_of_box same enabled unit

theorem statedSizes_edited_of_left (noBox : node.kind ≠ .box) (drawn : node.isRendered = false) :
    (node.edited edit).statedSizes unit = (node.edited edit).drawnLayout.statedSize?.toList := by
  have other : (node.edited edit).kind ≠ .box := noBox
  exact statedSizes_of_left other drawn unit

/-- An edit other than that of a cell leaves a fixed size to be written. -/
theorem shouldFixSize_edited (pending : node.layout.IsPending)
    (enabled : (node.edited edit).layout.isEnabled = true) (noCell : edit ≠ .asCell) :
    (node.edited edit).layout.shouldFixSize = (node.edited edit).layout.isFixedSize := by
  cases edit with
  | asDesigned => exact pending.size
  | asCell => exact absurd rfl noCell
  | inTemplate wanted =>
      cases wanted with
      | asDesigned => exact pending.size
      | none => cases enabled
      | size => rfl

/-- Nodes that a parent has placed have bounds. -/
theorem bounds_edited (pending : node.layout.IsPending)
    (enabled : (node.edited edit).layout.isEnabled = true) :
    (node.edited edit).layout.bounds.isSome ∨
      edit = .inTemplate .size ∧ node.layout.bounds = none := by
  have kept (same : node.layout.isEnabled = true) : node.layout.bounds.isSome :=
    pending.bounded (pending.placed same)
  cases edit with
  | asDesigned => exact Or.inl (kept enabled)
  | asCell => exact Or.inl (kept enabled)
  | inTemplate wanted =>
      cases wanted with
      | asDesigned => exact Or.inl (kept enabled)
      | none => cases enabled
      | size =>
          cases known : node.layout.bounds with
          | some bounds =>
              refine Or.inl ?_
              change node.layout.bounds.isSome = true
              rw [known]
              rfl
          | none => exact Or.inr ⟨rfl, rfl⟩

section Fixed

variable (pending : node.layout.IsPending) (enabled : (node.edited edit).layout.isEnabled = true)
  (fixed : (node.edited edit).drawnLayout.isFixedSize = true)
  (unpinned : (node.edited edit).drawnLayout.type ≠ .pinned)

include pending enabled fixed unpinned

/-- A node states its size once if it leaves the size to a layout with bounds in which the
size is pending. Without the bounds it strays. -/
theorem statesOrStrays_of_left (noBox : node.kind ≠ .box) (drawn : node.isRendered = false)
    (kept : (node.edited edit).drawnLayout = (node.edited edit).layout) (noCell : edit ≠ .asCell) :
    node.StatesOrStrays edit unit := by
  have fixing : (node.edited edit).drawnLayout.shouldFixSize = true := by
    rw [kept] at fixed ⊢
    rw [shouldFixSize_edited pending enabled noCell, fixed]
  rcases bounds_edited pending enabled with bounded | ⟨size, unbounded⟩
  · refine Or.inl ⟨statesSize_of_left noBox drawn fixing unpinned (kept ▸ bounded), fun strays => ?_⟩
    cases strays with
    | asCell => exact noCell rfl
    | sized unbounded =>
        change node.layout.bounds.isSome = true at bounded
        rw [unbounded] at bounded
        cases bounded
  · subst size
    have nothing : (node.edited (.inTemplate .size)).layout.bounds = none := unbounded
    refine Or.inr ⟨?_, .sized unbounded noBox drawn⟩
    rw [statedSizes_edited_of_left noBox drawn, kept, Layout.statedSize?, nothing]
    split <;> rfl

theorem statesOrStrays_box (box : node.kind = .box) : node.StatesOrStrays edit unit := by
  have noShape : node.isShape = false := by rw [isShape, box]
  have drawn : node.isRendered = false := by rw [isRendered, box]
  have kept : (node.edited edit).drawnLayout = (node.edited edit).layout :=
    drawnLayout_of_not_shape noShape
  rw [kept] at fixed unpinned
  by_cases cell : edit = .asCell
  · subst cell
    exact Or.inr ⟨statedSizes_edited_of_box box enabled,
      .asCell (pending.direction_eq fixed unpinned) noShape drawn⟩
  · have fixing := (shouldFixSize_edited pending enabled cell).trans fixed
    refine Or.inl ⟨statesSize_of_box box enabled fixing, fun strays => ?_⟩
    cases strays with
    | asCell => exact cell rfl
    | sized _ noBox => exact noBox box

theorem statesOrStrays_group {kind : GroupKind} (group : node.kind = .group kind) :
    node.StatesOrStrays edit unit := by
  have noShape : node.isShape = false := by rw [isShape, group]
  have noBox : node.kind ≠ .box := group.trans_ne nofun
  have kept : (node.edited edit).drawnLayout = (node.edited edit).layout :=
    drawnLayout_of_not_shape noShape
  cases rendered : node.isRendered with
  | true =>
      refine Or.inl ⟨statesSize_of_isRendered rendered, fun strays => ?_⟩
      have drawn : node.isRendered = false := by cases strays <;> assumption
      exact Bool.false_ne_true (drawn.symm.trans rendered)
  | false =>
      by_cases cell : edit = .asCell
      · subst cell
        rw [kept] at fixed unpinned
        refine Or.inr ⟨?_, .asCell (pending.direction_eq fixed unpinned) noShape rendered⟩
        rw [statedSizes_edited_of_left noBox rendered, kept]
        rfl
      · exact statesOrStrays_of_left pending enabled fixed unpinned noBox rendered kept cell

theorem statesOrStrays_shape {shape : ShapeUnit α} (kind : node.kind = .shape shape) :
    node.StatesOrStrays edit unit := by
  have noBox : node.kind ≠ .box := kind.trans_ne nofun
  have drawn : node.isRendered = false := by rw [isRendered, kind]
  cases known : (node.edited edit).layout.input.parent with
  | some parent =>
      have placed : (node.edited edit).drawnLayout = (node.edited edit).layout.recalculateWithBounds
          (shape.boundsInParent.translate (-parent.content.x) (-parent.content.y)) :=
        drawnLayout_of_parent kind known
      have fixing : (node.edited edit).drawnLayout.shouldFixSize = true := by
        rw [placed] at fixed ⊢
        exact Layout.size_calculate.trans fixed
      have bounded : (node.edited edit).drawnLayout.bounds.isSome := by
        rw [placed, Layout.bounds_recalculateWithBounds known]
        rfl
      refine Or.inl ⟨statesSize_of_left noBox drawn fixing unpinned bounded, fun strays => ?_⟩
      cases strays with
      | asCell _ noShape =>
          rw [isShape, kind] at noShape
          cases noShape
      | sized => cases known
  | none =>
      have noCell : edit ≠ .asCell := by
        intro cell
        subst cell
        have placed : node.layout.input.parent.isSome := pending.placed enabled
        change node.layout.input.parent = none at known
        rw [known] at placed
        cases placed
      exact statesOrStrays_of_left pending enabled fixed unpinned noBox drawn
        (drawnLayout_of_no_parent known) noCell

/-- So it is for every node with a fixed size. -/
theorem statesOrStrays (sized : node.isSized = true) : node.StatesOrStrays edit unit := by
  cases kind : node.kind with
  | widgetRoot | text =>
      rw [isSized, kind] at sized
      cases sized
  | box => exact statesOrStrays_box pending enabled fixed unpinned kind
  | group => exact statesOrStrays_group pending enabled fixed unpinned kind
  | shape => exact statesOrStrays_shape pending enabled fixed unpinned kind

end Fixed

end Given

/-! ### Code -/

/-- The code of a node where it stands, or in the build method that is called there. -/
def Shows (node : NodeInfo α) (children : List (Child α)) (context : Context α) (code : String) : Prop :=
  let written := (node.write children).run context
  match node.mode with
  | .inline => written.1.1 = code
  | .method => ∃ name, written.1.1 = call name ∧ (name, code) ∈ written.2.scope.methods
  | .builder | .custom => False

/-- The code of a node is its call in the widgets of its layout and its decorators, and these
say how large it is and how far apart from its parent, each once. -/
structure StatesOnce (node : NodeInfo α) (children : List (Child α)) (context : Context α) : Prop where
  code : node.drawnLayout.type ≠ .pinned → node.Shows children context
    (node.layer.commented context.settings
      (wrapAll context.settings.widthUnit (node.wrappers context.settings.widthUnit)
        (node.ownCode children context node.ownSize? node.ownMargin?)))
  size : node.drawnLayout.isFixedSize = true → node.drawnLayout.type ≠ .pinned →
    node.StatesSize context.settings.widthUnit
  padding : node.statedInsets context.settings.widthUnit = node.drawnLayout.padding.toList
  padded : node.drawnLayout.padding.isSome → node.drawnLayout.type ≠ .pinned
  settled :
    let written := ((node.write children).run context).1.2
    written.layout.shouldFixSize = false ∧ written.layout.shouldExpand = false

section Writing

variable {node : NodeInfo α} {children : List (Child α)} {context : Context α}

theorem writeMethod_run (present : ((writeInline node children).run context).1.1 ≠ "") :
    let inline := (writeInline node children).run context
    let name := node.layer.methodName inline.2.settings.normalizeNameCase
    (writeMethod node children).run context =
      ((call name, inline.1.2), ((Compile.addMethod name inline.1.1).run inline.2).2) := by
  intro inline name
  have filled : ¬inline.1.1.isEmpty = true := fun empty => present (String.isEmpty_iff.mp empty)
  rw [writeMethod, Compile.run_bind]
  dsimp only
  rw [if_neg filled]
  rfl

variable (called : node.mode = .inline ∨ node.mode = .method)
  (present : ((node.write children).run context).1.1 ≠ "")

include called present

/-- Code in the place of a node is the inline code of the node, or a call for it. -/
theorem writeInline_ne_of_write_ne : ((writeInline node children).run context).1.1 ≠ "" := by
  intro empty
  refine present ?_
  unfold write
  rcases called with inline | method
  · rw [inline]
    exact empty
  · rw [method]
    dsimp only
    rw [writeMethod, Compile.run_bind]
    dsimp only
    rw [if_pos (String.isEmpty_iff.mpr empty)]
    exact empty

theorem shows_writeInline :
    node.Shows children context ((writeInline node children).run context).1.1 := by
  have filled := writeInline_ne_of_write_ne called present
  unfold Shows write
  rcases called with inline | method
  · rw [inline]
  · rw [method]
    dsimp only
    rw [writeMethod_run filled]
    refine ⟨_, rfl, ?_⟩
    rw [Compile.addMethod_run_scope]
    exact Table.mem_insert_self _

theorem layout_write : ((node.write children).run context).1.2 =
    ((writeInline node children).run context).1.2 := by
  have filled := writeInline_ne_of_write_ne called present
  unfold write
  rcases called with inline | method
  · rw [inline]
  · rw [method]
    dsimp only
    rw [writeMethod_run filled]

end Writing

end NodeInfo

/-! ### Pending sizes -/

/-- Nothing of the layouts of a tree has been written yet. -/
def Node.HasPendingLayouts (node : Node α) : Prop :=
  node.Throughout (fun info => info.layout.IsPending)

namespace Node

theorem isPending_ofLayer [Scalar α] (layer : LayerInfo α) (owner : Option (LayerInfo α)) :
    (Layout.within owner layer).IsPending :=
  Layout.calculate_isPending _ fun _ => rfl

theorem HasPendingLayouts.unplaced {node : Node α} (pending : node.HasPendingLayouts) :
    node.unplaced.HasPendingLayouts := by
  obtain ⟨info, children⟩ := node
  obtain ⟨own, below⟩ := throughout_mk.mp pending
  exact throughout_mk.mpr ⟨{ own with placed := fun enabled => absurd enabled Bool.false_ne_true }, below⟩

theorem HasPendingLayouts.combineShapes [Scalar α] {node : Node α} (pending : node.HasPendingLayouts)
    (eager : Bool) : (node.combineShapes eager).HasPendingLayouts :=
  throughout_combineShapes (fun _ _ _ own => own) node eager pending

end Node

theorem Document.Builds.hasPendingLayouts [Scalar α] {document : Document α} {tree : Node α}
    (builds : document.Builds tree) : tree.HasPendingLayouts := by
  have made {start : Context α} {layer : LayerInfo α} {info : NodeInfo α}
      (origin : info.IsMadeOf start layer) : info.layout.IsPending := by
    rw [origin.layout_eq]
    exact Node.isPending_ofLayer layer _
  cases builds with
  | root inside index =>
      refine Node.buildRoot_throughout (fun _ _ _ origin => made origin) ?_
      have unplaced : (LayoutInput.none : LayoutInput α).parent.isSome = false := rfl
      have pending : (Layout.ofInput (LayoutInput.none : LayoutInput α)).IsPending := by
        refine Layout.calculate_isPending _ fun placed => ?_
        rw [unplaced] at placed
        cases placed
      exact pending
  | below inside index built =>
      intro part within
      obtain ⟨source, _, origin⟩ := Node.exists_source built within
      exact made (Node.build_run_eq_some origin).1

/-! ### What is written of documents -/

namespace Document.Writes

variable [Scalar α] {document : Document α} {settings : Settings} {tree : Node α} {ready : Context α}

theorem run_widgetTree {layer : Layer α} {start : Context α}
    (inside : layer ∈ Layer.flattenAll document.children) (serves : start.Serves document settings) :
    document.Writes settings ((widgetTree layer).run start).1 ((widgetTree layer).run start).2 :=
  .widget inside serves rfl

/-- What is written has been built for a layer, and its shapes are merged. -/
theorem exists_built (writes : document.Writes settings tree ready) :
    ∃ built : Node α, document.Builds built ∧
      (tree = built.combineShapes settings.combineShapes ∨
        tree = built.unplaced.combineShapes settings.combineShapes) := by
  cases writes with
  | @widget layer start _ _ inside serves built =>
      have same := widgetTree_run layer start
      rw [built, serves.settings_eq] at same
      exact ⟨_, .root inside serves.index_eq, Or.inl same⟩
  | @snippet layer start _ _ inside serves built =>
      have same := snippetTree_run layer start
      rw [built, serves.settings_eq] at same
      obtain ⟨node, found, merged⟩ := Option.map_eq_some_iff.mp same.symm
      exact ⟨node, .below inside serves.index_eq found, Or.inr merged.symm⟩

theorem hasPendingLayouts (writes : document.Writes settings tree ready) :
    tree.HasPendingLayouts := by
  obtain ⟨built, builds, placed | unplaced⟩ := writes.exists_built
  · rw [placed]
    exact builds.hasPendingLayouts.combineShapes _
  · rw [unplaced]
    exact builds.hasPendingLayouts.unplaced.combineShapes _

theorem isLaidOut (distinct : document.HasDistinctGuids)
    (writes : document.Writes settings tree ready) : tree.IsLaidOut := by
  obtain ⟨built, builds, placed | unplaced⟩ := writes.exists_built
  · rw [placed]
    exact (builds.isLaidOut distinct).combineShapes _
  · rw [unplaced]
    exact (builds.isLaidOut distinct).unplaced.combineShapes _

theorem hasConsistentLayouts (writes : document.Writes settings tree ready) :
    tree.HasConsistentLayouts := by
  obtain ⟨built, builds, merged⟩ := writes.exists_built
  have consistent : built.HasConsistentLayouts := by
    cases builds with
    | root => exact Node.buildRoot_hasConsistentLayouts _ _
    | below _ _ found => exact Node.build_hasConsistentLayouts found
  rcases merged with placed | unplaced
  · rw [placed]
    exact consistent.combineShapes _
  · rw [unplaced]
    exact consistent.unplaced.combineShapes _

variable {part : Node α} {edit : LayoutEdit}

/-- With a guid of its own every layer is where the index places it. -/
theorem not_strays (writes : document.Writes settings tree ready)
    (distinct : document.HasDistinctGuids) (gives : tree.Gives part edit) : ¬part.Strays edit := by
  cases gives with
  | root => exact fun strays => by cases strays
  | @child parent _ _ inside member edits =>
      have placed := writes.isLaidOut distinct parent inside part member
      intro strays
      cases strays with
      | asCell free =>
          cases edits with
          | asCell stacked =>
              have known : (ParentFrame.ofLayer parent.layer).stack.isSome := by
                unfold NodeInfo.writtenStack? at stacked
                split at stacked
                · exact Option.isSome_map.trans stacked
                · cases stacked
              have along : part.layout.direction =
                  Layout.directionOf (ParentFrame.ofLayer parent.layer).stack := by
                rw [placed]
                exact Layout.direction_calculate rfl
              obtain ⟨orientation, found⟩ := Option.isSome_iff_exists.mp known
              rw [along, found] at free
              cases orientation <;> cases free
      | sized unbounded =>
          rw [placed, Layout.bounds_within] at unbounded
          cases unbounded

end Document.Writes

theorem LayoutEdit.keepsConsistent_apply [Scalar α] (edit : LayoutEdit) :
    Layout.KeepsConsistent (α := α) edit.apply := by
  cases edit with
  | asDesigned => exact Layout.keepsConsistent_id
  | asCell => exact Layout.keepsConsistent_asCell
  | inTemplate wanted => exact NodeInfo.keepsConsistent_editForTemplate wanted

theorem NodeInfo.isConsistent_drawnLayout [Scalar α] {node : NodeInfo α}
    (consistent : node.layout.IsConsistent) : node.drawnLayout.IsConsistent := by
  unfold drawnLayout
  cases node.kind with
  | widgetRoot | box | group | text => exact consistent
  | shape unit => exact Picture.place_isConsistent consistent unit

section Stating

variable [Scalar α] {document : Document α} {settings : Settings} {tree part : Node α}
  {ready : Context α} {edit : LayoutEdit}

/-- Each layer that is written with a place of its own states its size and its padding once,
if no guid is repeated or the layer does not stray where it is written. -/
theorem Document.Writes.states_once (writes : document.Writes settings tree ready)
    (gives : tree.Gives part edit) (fits : document.HasDistinctGuids ∨ ¬part.Strays edit)
    (sized : part.isSized = true) (called : part.mode = .inline ∨ part.mode = .method)
    (enabled : (part.edited edit).layout.isEnabled = true) (context : Context α)
    (present : (((part.edited edit).write (Node.asChildren part.children)).run context).1.1 ≠ "") :
    (part.edited edit).StatesOnce (Node.asChildren part.children) context := by
  have pending : part.layout.IsPending := writes.hasPendingLayouts part gives.mem_parts
  have fits : ¬part.Strays edit := fits.elim (fun distinct => writes.not_strays distinct gives) id
  have own : part.layout.IsConsistent := writes.hasConsistentLayouts part gives.mem_parts
  have given : (part.edited edit).layout.IsConsistent := edit.keepsConsistent_apply _ own
  have consistent := NodeInfo.isConsistent_drawnLayout given
  -- An edit is about the layout alone.
  have sizedSo : (part.edited edit).isSized = true := sized
  have calledSo : (part.edited edit).mode = .inline ∨ (part.edited edit).mode = .method := called
  have filled := NodeInfo.writeBody_ne_of_writeInline_ne
    (NodeInfo.writeInline_ne_of_write_ne calledSo present)
  constructor
  case code =>
    intro unpinned
    rw [← NodeInfo.writeInline_run_code part.children context sizedSo enabled filled unpinned]
    exact NodeInfo.shows_writeInline calledSo present
  case size =>
    intro fixed unpinned
    rcases NodeInfo.statesOrStrays pending enabled fixed unpinned sized with ⟨states, -⟩ | ⟨-, strays⟩
    · exact states
    · exact absurd strays fits
  case padding => exact NodeInfo.statedInsets_eq enabled _
  case padded =>
    intro padded pinned
    have filling := (consistent.padded padded).1
    rw [pinned] at filling
    cases filling
  case settled =>
    rw [NodeInfo.layout_write calledSo present]
    exact NodeInfo.writeInline_settles part.children context sizedSo enabled filled

end Stating

/-! ### A mark beside a column -/

/-- A page with a column of one dot, and a mark beside it. -/
def markedPage (mark : String) : Layer Rat :=
  let usual (guid name : String) (kind : LayerKind Rat) (size : Rat) : LayerInfo Rat :=
    { LayerInfo.usual guid name kind with hasDefaultName := true, localBounds := ⟨0, 0, size, size⟩ }
  let column : LayerInfo Rat :=
    { usual "column" "Column" .group 50 with
      arrangement := ⟨none, .stack, some ⟨.vertical, .uniform 0⟩, none⟩ }
  ⟨usual "home" "Home" .artboard 400,
    [⟨column, [⟨usual "dot" "Dot" .ellipse 20, []⟩]⟩, ⟨usual mark "Mark" .ellipse 10, []⟩]⟩

def markedDocument (mark : String) : Document Rat :=
  ⟨[], [markedPage mark], ⟨[], []⟩⟩

def markedStart (mark : String) : Context Rat :=
  Context.start (Index.ofDocument (markedDocument mark)) {} .clipboard

def markedTree (mark : String) : Node Rat :=
  ((widgetTree (markedPage mark)).run (markedStart mark)).1

theorem writes_markedTree (mark : String) : ∃ ready,
    (markedDocument mark).Writes {} (markedTree mark) ready :=
  ⟨_, Document.Writes.run_widgetTree List.mem_cons_self (Context.serves_start .clipboard)⟩

/-- The mark states its size itself. -/
theorem Document.Writes.states_once_markedDocument :
    ∃ part ∈ (markedTree "mark").children, part.layer.guid = "mark" ∧
      (part.edited .asDesigned).StatesOnce (Node.asChildren part.children) (markedStart "mark") ∧
      (part.edited .asDesigned).statedSizes "" = [(10, 10)] := by
  have facts : ∃ part ∈ (markedTree "mark").children, part.layer.guid = "mark" ∧
      part.isSized = true ∧ part.mode = .inline ∧
      (part.edited .asDesigned).layout.isEnabled = true ∧
      (((part.edited .asDesigned).write (Node.asChildren part.children)).run (markedStart "mark")).1.1 ≠ "" ∧
      (part.edited .asDesigned).statedSizes "" = [(10, 10)] := by
    decide +kernel
  obtain ⟨part, member, guid, sized, inline, enabled, present, states⟩ := facts
  obtain ⟨ready, writes⟩ := writes_markedTree "mark"
  have gives : (markedTree "mark").Gives part .asDesigned :=
    .child (Node.Reaches.self _).mem_parts member .asDesigned
  exact ⟨part, member, guid, writes.states_once gives (Or.inl (by decide +kernel)) sized (Or.inl inline)
    enabled _ present, states⟩

/-- With the guid of the mark the dot in the column is placed on the page, and its column takes
its size away. -/
theorem strays_markedDocument :
    (∃ ready, (markedDocument "dot").Writes {} (markedTree "dot") ready) ∧
    (∃ part, (markedTree "dot").Gives part .asCell ∧ part.Strays .asCell ∧ part.isSized = true ∧
      part.mode = .inline ∧ (part.edited .asCell).layout.isEnabled = true ∧
      (((part.edited .asCell).write (Node.asChildren part.children)).run (markedStart "dot")).1.1 ≠ "" ∧
      (part.edited .asCell).drawnLayout.isFixedSize = true ∧
      (part.edited .asCell).drawnLayout.type = .translate ∧
      (part.edited .asCell).statedSizes "" = []) ∧
    ((markedDocument "dot").copySelected {} "column").toOption.map (·.code) =
      some ("Column(crossAxisAlignment: CrossAxisAlignment.start, " ++
        "mainAxisAlignment: MainAxisAlignment.start, children: <Widget>[" ++
        "SizedBox(height: 20, child: Container(decoration: BoxDecoration(borderRadius: " ++
        "BorderRadius.all(Radius.elliptical(9999.0, 9999.0)), ), ), ), ], )") := by
  refine ⟨writes_markedTree "dot", ?_, by decide +kernel⟩
  have facts : ∃ column ∈ (markedTree "dot").children, column.writtenStack?.isSome = true ∧
      ∃ part ∈ column.children, part.layout.direction = .both ∧ part.isShape = false ∧
      part.isRendered = false ∧ part.isSized = true ∧
      part.mode = .inline ∧ (part.edited .asCell).layout.isEnabled = true ∧
      (((part.edited .asCell).write (Node.asChildren part.children)).run (markedStart "dot")).1.1 ≠ "" ∧
      (part.edited .asCell).drawnLayout.isFixedSize = true ∧
      (part.edited .asCell).drawnLayout.type = .translate ∧
      (part.edited .asCell).statedSizes "" = [] := by
    decide +kernel
  obtain ⟨column, member, stacked, part, inside, free, noShape, drawn, rest⟩ := facts
  have above : column ∈ (markedTree "dot").parts :=
    Node.mem_parts.mpr (Or.inr ⟨column, member, (Node.Reaches.self column).mem_parts⟩)
  exact ⟨part, .child above inside (.asCell stacked), .asCell free noShape drawn, rest⟩

end DesignExport
