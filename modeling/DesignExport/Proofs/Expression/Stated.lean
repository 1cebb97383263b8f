import DesignExport.Layout.Placement
import DesignExport.Proofs.Expression.Renders
import DesignExport.Proofs.Layout.Consistent
set_option autoImplicit false

/-! What the code of a node says about its own size and padding. The code is a call in the
widgets of a layout. Boxes and rendered groups say it in their own call and leave the rest to
their layout; the others leave all of it to the layout. -/

namespace DesignExport

section Wrapping

variable {α : Type}

/-- A widget around code. -/
inductive Wrapper (α : Type) where
  | sized (size : α × α)
  | padded (insets : EdgeInsets α)
  /-- Says neither how large nor how far apart the code is. -/
  | other (front back : String)

def Rect.size (rect : Rect α) : α × α :=
  (rect.width, rect.height)

namespace Wrapper

def size? : Wrapper α → Option (α × α)
  | .sized size => some size
  | .padded _ | .other _ _ => none

def insets? : Wrapper α → Option (EdgeInsets α)
  | .padded insets => some insets
  | .sized _ | .other _ _ => none

variable [Scalar α]

def around (unit code : String) : Wrapper α → String
  | .sized size =>
      "SizedBox(width: " ++ Dart.dimension size.1 unit ++ ", height: " ++
        Dart.dimension size.2 unit ++ ", child: " ++ code ++ ", )"
  | .padded insets => "Padding(padding: " ++ insets.write unit ++ ", child: " ++ code ++ ", )"
  | .other front back => front ++ code ++ back

/-- Code in several widgets, the innermost one first. -/
def wrapAll (unit : String) (wrappers : List (Wrapper α)) (code : String) : String :=
  wrappers.foldl (fun inner wrapper => wrapper.around unit inner) code

theorem wrapAll_append (unit : String) (inner outer : List (Wrapper α)) (code : String) :
    wrapAll unit (inner ++ outer) code = wrapAll unit outer (wrapAll unit inner code) :=
  List.foldl_append

end Wrapper

namespace Layout

open Wrapper (wrapAll)

/-- The size that a layout states. -/
def statedSize? (layout : Layout α) : Option (α × α) :=
  if layout.shouldFixSize && layout.type ≠ .pinned then layout.bounds.map Rect.size else none

variable [Scalar α]

/-- The widget that turns code. -/
def turning (layout : Layout α) : List (Wrapper α) :=
  let rotation := layout.input.rotation
  if rotation == 0.0 && !layout.input.isFlipped then []
  else if layout.isResponsive then []
  else
    let angle := Scalar.fixed (rotation / 180.0 * 3.141592653589793) 4
    if layout.input.isFlipped then
      [.other ("Transform(alignment: Alignment.center, transform: Matrix4.identity()..rotateZ(" ++
        angle ++ ")..scale(1.0, -1.0), child: ") ", )"]
    else [.other ("Transform.rotate(angle: " ++ angle ++ ", child: ") ", )"]

/-- The widget that sizes code, or lets it fill its parent. -/
def sizing (layout : Layout α) : List (Wrapper α) :=
  if layout.shouldFixSize then (layout.statedSize?.map Wrapper.sized).toList
  else if layout.shouldExpand && !layout.isFixedSize && layout.type = .none then
    [.other "SizedBox.expand(child: " ", )"]
  else []

/-- The widget of the classification, unless margins are worked into the code. -/
def placing (layout : Layout α) (unit : String) : List (Wrapper α) :=
  match layout.type with
  | .none | .pinned => []
  | .translate =>
      match layout.bounds with
      | none => []
      | some bounds =>
          if Scalar.abs bounds.x < 0.1 && Scalar.abs bounds.y < 0.1 then []
          else
            [.other ("Transform.translate(offset: Offset(" ++ Dart.dimension bounds.x unit ++ ", " ++
              Dart.dimension bounds.y unit ++ "), child: ") ", )"]
  | .center => [.other "Center(child: " ", )"]
  | .align =>
      match layout.alignment with
      | some alignment => [.other ("Align(alignment: " ++ alignment.write ++ ", child: ") ", )"]
      | none => []

/-- All widgets that a layout puts around code. -/
def wrappers (layout : Layout α) (unit : String) : List (Wrapper α) :=
  layout.turning ++ layout.sizing ++ (layout.padding.map Wrapper.padded).toList ++
    layout.placing unit

variable (layout : Layout α) (code unit : String) (layer : LayerInfo α)

theorem transformed_eq : (layout.transformed code layer).1 = wrapAll unit layout.turning code := by
  unfold transformed turning
  dsimp only
  split
  · rfl
  · split
    · rfl
    · split
      · rfl
      · rfl

theorem sizedBox_eq : layout.sizedBox code unit =
    wrapAll unit ((layout.bounds.map Rect.size).map Wrapper.sized).toList code := by
  unfold sizedBox
  cases layout.bounds with
  | none => rfl
  | some bounds => rfl

theorem sized_eq : layout.sized code unit = wrapAll unit layout.sizing code := by
  unfold sized sizing
  split
  case isTrue pending =>
    rw [statedSize?, pending, sizedBox_eq, Bool.true_and]
    by_cases pinned : layout.type = .pinned
    · rw [if_pos pinned, if_neg (by rw [pinned]; decide)]
      rfl
    · rw [if_neg pinned, if_pos (decide_eq_true pinned)]
  case isFalse =>
    split
    · rfl
    · rfl

theorem padded_eq :
    layout.padded code unit = wrapAll unit (layout.padding.map Wrapper.padded).toList code := by
  unfold padded
  cases layout.padding with
  | none => rfl
  | some insets => rfl

theorem placed_eq (unpinned : layout.type ≠ .pinned) :
    (layout.placed code unit layer).1 = wrapAll unit (layout.placing unit) code := by
  unfold placed placing
  cases type : layout.type with
  | none => rfl
  | translate =>
      unfold moved
      cases layout.bounds with
      | none => rfl
      | some bounds =>
          dsimp only
          split
          · rfl
          · rfl
  | center => rfl
  | align =>
      cases layout.alignment with
      | none => rfl
      | some alignment => rfl
  | pinned => exact absurd type unpinned

/-- The code of a layer stands in the widgets of its layout. -/
theorem wrap_eq (enabled : layout.isEnabled = true) (unpinned : layout.type ≠ .pinned) :
    (layout.wrap code layer unit).1 = wrapAll unit (layout.wrappers unit) code := by
  rw [wrap, if_pos enabled]
  change (layout.placed (layout.padded (layout.sized (layout.transformed code layer).1 unit) unit)
    unit layer).1 = _
  rw [placed_eq _ _ _ _ unpinned, padded_eq, sized_eq, transformed_eq _ _ unit, wrappers,
    Wrapper.wrapAll_append, Wrapper.wrapAll_append, Wrapper.wrapAll_append]

/-- What was still to be written has been written. -/
theorem wrap_settles (enabled : layout.isEnabled = true) :
    (layout.wrap code layer unit).2.1.shouldFixSize = false ∧
      (layout.wrap code layer unit).2.1.shouldExpand = false := by
  rw [wrap, if_pos enabled]
  exact ⟨rfl, rfl⟩

/-! ### What is said about size and padding -/

theorem filterMap_wrappers {β : Type} {read : Wrapper α → Option β}
    (silent : ∀ front back, read (.other front back) = none) :
    (layout.wrappers unit).filterMap read =
      layout.sizing.filterMap read ++
        (layout.padding.map Wrapper.padded).toList.filterMap read := by
  have alone (front back : String) : [Wrapper.other front back].filterMap read = [] := by
    rw [List.filterMap_cons, silent]
    rfl
  have turning : layout.turning.filterMap read = [] := by
    unfold turning
    dsimp only
    split
    · rfl
    · split
      · rfl
      · split
        · exact alone _ _
        · exact alone _ _
  have placing : (layout.placing unit).filterMap read = [] := by
    unfold placing
    cases layout.type with
    | none | pinned => rfl
    | translate =>
        dsimp only
        split
        · rfl
        · split
          · rfl
          · exact alone _ _
    | center => exact alone _ _
    | align =>
        dsimp only
        split
        · exact alone _ _
        · rfl
  rw [wrappers, List.filterMap_append, List.filterMap_append, List.filterMap_append, turning, placing,
    List.nil_append, List.append_nil]

theorem sizes_wrappers :
    (layout.wrappers unit).filterMap Wrapper.size? = layout.statedSize?.toList := by
  rw [filterMap_wrappers layout unit fun _ _ => rfl]
  have paddings : (layout.padding.map Wrapper.padded).toList.filterMap Wrapper.size? = [] := by
    cases layout.padding <;> rfl
  rw [paddings, List.append_nil]
  unfold sizing
  split
  case isTrue => cases layout.statedSize? <;> rfl
  case isFalse settled =>
    have nothing : layout.statedSize? = none := by
      rw [statedSize?, Bool.eq_false_iff.mpr settled]
      rfl
    rw [nothing]
    split <;> rfl

theorem paddings_wrappers :
    (layout.wrappers unit).filterMap Wrapper.insets? = layout.padding.toList := by
  rw [filterMap_wrappers layout unit fun _ _ => rfl]
  have sizes : layout.sizing.filterMap Wrapper.insets? = [] := by
    unfold sizing
    split
    · cases layout.statedSize? <;> rfl
    · split <;> rfl
  rw [sizes, List.nil_append]
  cases layout.padding <;> rfl

end Layout

end Wrapping

/-! ### Calls and their layouts -/

open Wrapper (wrapAll)

variable {α : Type}

/-! ### Decorators -/

section Decorators

variable [Scalar α]

/-- The widget that a decorator puts around code. -/
def Decorator.wrapper : Decorator α → Wrapper α
  | .tap callback => .other ("GestureDetector(onTap: () => " ++ callback ++ "?.call(), child: ") ", )"
  | .pageLink widget transition =>
      .other ("PageLink(links: [PageLinkInfo(transition: LinkTransition." ++ transition.constant ++
        ", ease: Curves." ++ transition.curve ++ ", duration: " ++
        Scalar.fixed transition.duration 2 ++ ", pageBuilder: () => " ++ widget ++
        "(), ), ], child: ") ", )"
  | .blur amount =>
      .other ("ClipRect(child: BackdropFilter(filter: ui.ImageFilter.blur(sigmaX: " ++
        Scalar.fixed amount 1 ++ ", sigmaY: " ++ Scalar.fixed amount 1 ++ "), child: ") ", ), )"

theorem Decorator.applyAll_run (unit : String) (decorators : List (Decorator α)) :
    ∀ (code : String) (context : Context α), ((applyAll code decorators).run context).1 =
      wrapAll unit (decorators.map wrapper) code := by
  induction decorators with
  | nil => exact fun _ _ => rfl
  | cons decorator rest ih =>
      intro code context
      rw [applyAll, Compile.run_bind, ih]
      cases decorator <;> rfl

theorem Decorator.filterMap_wrapper {β : Type} {read : Wrapper α → Option β}
    (silent : ∀ front back, read (.other front back) = none) (decorators : List (Decorator α)) :
    (decorators.map wrapper).filterMap read = [] := by
  induction decorators with
  | nil => rfl
  | cons decorator rest ih =>
      rw [List.map_cons, List.filterMap_cons_none (by cases decorator <;> exact silent _ _), ih]

end Decorators

/-- The comment with the name of a layer stands outside of all widgets. -/
def LayerInfo.commented (layer : LayerInfo α) (settings : Settings) (code : String) : String :=
  if settings.includeNameComments && !layer.hasDefaultName then layerComment code layer else code

namespace NodeInfo

variable [Scalar α]

/-- Nodes with a size of their own: boxes, groups and shapes. -/
def isSized (node : NodeInfo α) : Bool :=
  match node.kind with
  | .box | .group _ | .shape _ => true
  | .widgetRoot | .text => false

/-- The size that stands in the call of a node itself. -/
def ownSize? (node : NodeInfo α) : Option (α × α) :=
  match node.kind with
  | .box => if node.layout.isEnabled && node.layout.shouldFixSize then some node.layer.localBounds.size else none
  | .group _ => if node.layer.isMarkedForExport then some node.layer.localBounds.size else none
  | .widgetRoot | .shape _ | .text => none

/-- The padding that stands in the call of a node itself. -/
def ownMargin? (node : NodeInfo α) : Option (EdgeInsets α) :=
  match node.kind with
  | .box => if node.layout.isEnabled then node.layout.padding else none
  | .widgetRoot | .group _ | .shape _ | .text => none

def sizeText (unit : String) : Option (α × α) → String
  | some size =>
      "width: " ++ Dart.dimension size.1 unit ++ ", height: " ++ Dart.dimension size.2 unit ++ ", "
  | none => ""

def marginText (unit : String) : Option (EdgeInsets α) → String
  | some insets => "margin: " ++ insets.write unit ++ ", "
  | none => ""

/-- The call of a node itself, with a size and a padding in it. -/
def ownCode (node : NodeInfo α) (children : List (Child α)) (context : Context α)
    (size : Option (α × α)) (margin : Option (EdgeInsets α)) : String :=
  let unit := context.settings.widthUnit
  let body := ((writeBody node children).run context).1.1
  match node.kind with
  | .box =>
      "Container(" ++ sizeText unit size ++ ((Box.decoration node unit).run context).1 ++
        marginText unit margin ++ ")"
  | .group _ =>
      if node.layer.isMarkedForExport then
        "Image(" ++ sizeText unit size ++ "image: " ++
          AssetImage.write ((Compile.addRender node.layer).run context).1 ++ ", )"
      else body
  | .widgetRoot | .shape _ | .text => body

/-- The layout that a node is written with. Shapes are placed anew by what they draw. -/
def drawnLayout (node : NodeInfo α) : Layout α :=
  match node.kind with
  | .shape unit => Picture.place node.layout unit
  | .widgetRoot | .box | .group _ | .text => node.layout

/-- What the call of a node leaves to its layout. -/
def layoutLeft (node : NodeInfo α) : Layout α :=
  match node.kind with
  | .box =>
      if node.layout.isEnabled then { node.layout with shouldFixSize := false, padding := none }
      else node.layout
  | .group _ =>
      if node.layer.isMarkedForExport then { node.layout with shouldFixSize := false } else node.layout
  | .shape unit =>
      let placed := Picture.place node.layout unit
      if placed.isFixedSize then placed else { placed with shouldExpand := true }
  | .widgetRoot | .text => node.layout

/-- The widgets around the call of a node. -/
def wrappers (node : NodeInfo α) (unit : String) : List (Wrapper α) :=
  node.layoutLeft.wrappers unit ++ node.decorators.map Decorator.wrapper

/-- The sizes that the code of a node states for its layer. -/
def statedSizes (node : NodeInfo α) (unit : String) : List (α × α) :=
  node.ownSize?.toList ++ (node.wrappers unit).filterMap Wrapper.size?

/-- The paddings that it states. -/
def statedInsets (node : NodeInfo α) (unit : String) : List (EdgeInsets α) :=
  node.ownMargin?.toList ++ (node.wrappers unit).filterMap Wrapper.insets?

/-! ### Bodies -/

theorem sizeText_eq (unit : String) (layer : LayerInfo α) (states : Bool) :
    (if states then Box.sizeArguments layer unit else "") =
      sizeText unit (if states then some layer.localBounds.size else none) := by
  cases states <;> rfl

theorem marginText_eq (unit : String) (layout : Layout α) :
    Box.margin layout unit = marginText unit layout.padding := by
  unfold Box.margin
  cases layout.padding <;> rfl

/-- The call of a box, and what it leaves to the layout. -/
theorem write_run_box (node : NodeInfo α) (context : Context α) (box : node.kind = .box)
    (children : List (Child α)) :
    ((Box.write node).run context).1 =
      (node.ownCode children context node.ownSize? node.ownMargin?, node.layoutLeft) := by
  simp only [ownCode, ownSize?, ownMargin?, layoutLeft, box]
  rw [Box.write, Compile.run_bind]
  dsimp only
  rw [Compile.run_bind, sizeText_eq, marginText_eq]
  split
  case isTrue enabled => rfl
  case isFalse =>
    rw [marginText, String.append_empty]
    rfl

/-- The image of a rendered group, and what it leaves to the layout. -/
theorem writeRendered_run (node : NodeInfo α) (context : Context α) {kind : GroupKind}
    (group : node.kind = .group kind) (marked : node.layer.isMarkedForExport = true)
    (children : List (Child α)) :
    ((Group.writeRendered node).run context).1 =
      (node.ownCode children context node.ownSize? node.ownMargin?, node.layoutLeft) := by
  simp only [ownCode, ownSize?, layoutLeft, group, if_pos marked]
  rfl

theorem pictureWrite_run (node : NodeInfo α) (context : Context α) {unit : ShapeUnit α}
    (shape : node.kind = .shape unit) :
    ((Picture.write node.layout unit).run context).1.2.1 = node.layoutLeft := by
  simp only [layoutLeft, shape]
  rw [Picture.write, Compile.run_bind]
  dsimp only
  rw [Compile.run_bind]
  split
  · rfl
  · rfl

/-- The call of a node, what it leaves to the layout, and what it leaves alone. -/
theorem writeBody_run {node : NodeInfo α} (sized : node.isSized = true) (children : List (Child α))
    (context : Context α) :
    let result := ((writeBody node children).run context).1
    result.1 = node.ownCode children context node.ownSize? node.ownMargin? ∧
      result.2.layout = node.layoutLeft ∧ result.2.layer = node.layer ∧
      result.2.decorators = node.decorators := by
  intro result
  cases kind : node.kind with
  | widgetRoot | text =>
      rw [isSized, kind] at sized
      cases sized
  | box =>
      have written := write_run_box node context kind children
      have opened : result = (((Box.write node).run context).1.1,
          ⟨{ node with layout := ((Box.write node).run context).1.2 }, Child.nodes children⟩) := by
        change ((writeBody node children).run context).1 = _
        rw [writeBody, kind]
        rfl
      rw [opened, written]
      exact ⟨rfl, rfl, rfl, rfl⟩
  | shape unit =>
      have left := pictureWrite_run node context kind
      have opened : result.2 = ⟨{ node with
          layout := ((Picture.write node.layout unit).run context).1.2.1
          kind := .shape ((Picture.write node.layout unit).run context).1.2.2 },
          Child.nodes children⟩ := by
        change ((writeBody node children).run context).1.2 = _
        rw [writeBody, kind]
        rfl
      refine ⟨?_, ?_⟩
      · simp only [ownCode, kind]
        rfl
      · rw [opened, left]
        exact ⟨rfl, rfl, rfl⟩
  | group groupKind =>
      cases marked : node.layer.isMarkedForExport with
      | true =>
          have written := writeRendered_run node context kind marked children
          have opened : result = (((Group.writeRendered node).run context).1.1,
              ⟨{ node with layout := ((Group.writeRendered node).run context).1.2 },
                Child.nodes children⟩) := by
            change ((writeBody node children).run context).1 = _
            rw [writeBody, kind]
            dsimp only
            rw [if_pos marked]
            rfl
          rw [opened, written]
          exact ⟨rfl, rfl, rfl, rfl⟩
      | false =>
          have unmarked : ¬node.layer.isMarkedForExport = true := Bool.eq_false_iff.mp marked
          have left : node.layoutLeft = node.layout := by
            simp only [layoutLeft, kind, if_neg unmarked]
          have opened : ∃ nodes, result.2 = ⟨node, nodes⟩ := by
            change ∃ nodes, ((writeBody node children).run context).1.2 = _
            rw [writeBody, kind]
            dsimp only
            rw [if_neg unmarked]
            cases groupKind with
            | plain | scroll | instanceOf => exact ⟨_, rfl⟩
          obtain ⟨nodes, same⟩ := opened
          refine ⟨?_, ?_⟩
          · simp only [ownCode, kind, if_neg unmarked]
            rfl
          · rw [same, left]
            exact ⟨rfl, rfl, rfl⟩

/-! ### Whole expressions -/

theorem decorate_run (node : NodeInfo α) (code : String) (context : Context α) :
    ((decorate node code).run context).1 =
      (node.layer.commented context.settings (wrapAll context.settings.widthUnit
          (node.decorators.map Decorator.wrapper)
          (node.layout.wrap code node.layer context.settings.widthUnit).1),
        (node.layout.wrap code node.layer context.settings.widthUnit).2.1) := by
  have known : (Compile.settings : Compile α Settings).run context = (context.settings, context) := rfl
  rw [decorate, Compile.run_bind, known]
  dsimp only
  rw [Compile.run_bind, Compile.run_bind, LayerInfo.commented,
    ← Decorator.applyAll_run context.settings.widthUnit node.decorators _
      ((Compile.note (node.layout.wrap code node.layer context.settings.widthUnit).2.2).run context).2]
  split
  case isTrue commented => rfl
  case isFalse bare => rfl

/-- Code of a node comes from a call. -/
theorem writeBody_ne_of_writeInline_ne {node : NodeInfo α} {children : List (Child α)}
    {context : Context α} (present : ((writeInline node children).run context).1.1 ≠ "") :
    ((writeBody node children).run context).1.1 ≠ "" := by
  intro empty
  refine present ?_
  rw [writeInline, Compile.run_bind]
  dsimp only
  rw [if_pos (String.isEmpty_iff.mpr empty)]
  exact empty

/-- A call is decorated, and its layout with it. -/
theorem writeInline_run {node : NodeInfo α} {children : List (Child α)} {context : Context α}
    (filled : ((writeBody node children).run context).1.1 ≠ "") :
    let body := (writeBody node children).run context
    let written := (decorate body.1.2.toNodeInfo body.1.1).run body.2
    ((writeInline node children).run context).1 =
      (written.1.1, { body.1.2 with layout := written.1.2 }) := by
  intro body written
  rw [writeInline, Compile.run_bind]
  dsimp only
  rw [if_neg fun empty => filled (String.isEmpty_iff.mp empty)]
  rfl

section Stating

variable {node : NodeInfo α}

theorem isEnabled_layoutLeft (enabled : node.layout.isEnabled = true) :
    node.layoutLeft.isEnabled = true := by
  unfold layoutLeft
  cases node.kind with
  | widgetRoot | text => exact enabled
  | box => dsimp only; split <;> exact enabled
  | group => dsimp only; split <;> exact enabled
  | shape unit =>
      have placed : (Picture.place node.layout unit).isEnabled = true := by
        unfold Picture.place
        split
        case h_1 known => exact (Layout.isEnabled_recalculateWithBounds known _).trans enabled
        case h_2 => exact enabled
      dsimp only
      split <;> exact placed

theorem type_layoutLeft : node.layoutLeft.type = node.drawnLayout.type := by
  unfold layoutLeft drawnLayout
  cases node.kind with
  | widgetRoot | text => rfl
  | box => dsimp only; split <;> rfl
  | group => dsimp only; split <;> rfl
  | shape => dsimp only; split <;> rfl

/-- What stands in the call of a node does not stand in the widgets around it. -/
theorem statedInsets_eq (enabled : node.layout.isEnabled = true) (unit : String) :
    node.statedInsets unit = node.drawnLayout.padding.toList := by
  have decorators : (node.decorators.map Decorator.wrapper).filterMap Wrapper.insets? = [] :=
    Decorator.filterMap_wrapper (fun _ _ => rfl) _
  rw [statedInsets, wrappers, List.filterMap_append, Layout.paddings_wrappers, decorators,
    List.append_nil]
  unfold ownMargin? layoutLeft drawnLayout
  cases node.kind with
  | widgetRoot | text => rfl
  | box =>
      dsimp only
      rw [if_pos enabled, if_pos enabled]
      exact List.append_nil _
  | group => dsimp only; split <;> rfl
  | shape => dsimp only; split <;> rfl

theorem statedSizes_eq (unit : String) :
    node.statedSizes unit = node.ownSize?.toList ++ node.layoutLeft.statedSize?.toList := by
  have decorators : (node.decorators.map Decorator.wrapper).filterMap Wrapper.size? = [] :=
    Decorator.filterMap_wrapper (fun _ _ => rfl) _
  rw [statedSizes, wrappers, List.filterMap_append, Layout.sizes_wrappers, decorators,
    List.append_nil]

theorem statedSizes_of_box (box : node.kind = .box) (enabled : node.layout.isEnabled = true)
    (unit : String) : node.statedSizes unit =
      if node.layout.shouldFixSize then [node.layer.localBounds.size] else [] := by
  rw [statedSizes_eq, ownSize?, layoutLeft, box]
  dsimp only
  rw [enabled, if_pos rfl, Bool.true_and]
  split
  · rfl
  · rfl

theorem statedSizes_of_isRendered (rendered : node.isRendered = true) (unit : String) :
    node.statedSizes unit = [node.layer.localBounds.size] := by
  rw [statedSizes_eq]
  unfold isRendered at rendered
  unfold ownSize? layoutLeft
  cases kind : node.kind with
  | widgetRoot | box | shape | text =>
      rw [kind] at rendered
      cases rendered
  | group =>
      rw [kind] at rendered
      dsimp only at rendered ⊢
      rw [if_pos rendered, if_pos rendered]
      rfl

/-- Other nodes leave their size to their layout. -/
theorem statedSizes_of_left (noBox : node.kind ≠ .box) (drawn : node.isRendered = false)
    (unit : String) : node.statedSizes unit = node.drawnLayout.statedSize?.toList := by
  rw [statedSizes_eq]
  unfold isRendered at drawn
  unfold ownSize? layoutLeft drawnLayout
  cases kind : node.kind with
  | widgetRoot | text => rfl
  | box => exact absurd kind noBox
  | shape => dsimp only; split <;> rfl
  | group =>
      rw [kind] at drawn
      dsimp only at drawn ⊢
      rw [if_neg (Bool.eq_false_iff.mp drawn), if_neg (Bool.eq_false_iff.mp drawn)]
      rfl

variable (nodes : List (Node α)) (context : Context α)

theorem settings_writeBody : ((writeBody node (Node.asChildren nodes)).run context).2.settings =
    context.settings := by
  have steps : Compile.Composed (fun _ => True) (fun _ => True) True True
      (writeBody node (Node.asChildren nodes)) := Node.writeBody_composed node nodes
  exact steps.framed.settings_eq context

section Written

variable (sized : node.isSized = true) (enabled : node.layout.isEnabled = true)
  (filled : ((writeBody node (Node.asChildren nodes)).run context).1.1 ≠ "")

include sized enabled filled

/-- The code of a node is its call in its widgets. -/
theorem writeInline_run_code (unpinned : node.drawnLayout.type ≠ .pinned) :
    ((writeInline node (Node.asChildren nodes)).run context).1.1 =
      node.layer.commented context.settings
        (wrapAll context.settings.widthUnit (node.wrappers context.settings.widthUnit)
          (node.ownCode (Node.asChildren nodes) context node.ownSize? node.ownMargin?)) := by
  obtain ⟨code, layout, layer, decorators⟩ := writeBody_run sized (Node.asChildren nodes) context
  have left : node.layoutLeft.type ≠ .pinned := by
    rw [type_layoutLeft]
    exact unpinned
  rw [writeInline_run filled, decorate_run, settings_writeBody, code, layout, layer, decorators,
    Layout.wrap_eq _ _ _ _ (isEnabled_layoutLeft enabled) left, wrappers, Wrapper.wrapAll_append]

/-- What was pending in the layout of a node has been written. -/
theorem writeInline_settles :
    let written := ((writeInline node (Node.asChildren nodes)).run context).1.2
    written.layout.shouldFixSize = false ∧ written.layout.shouldExpand = false := by
  intro written
  obtain ⟨code, layout, layer, decorators⟩ := writeBody_run sized (Node.asChildren nodes) context
  have same : written.layout = (node.layoutLeft.wrap (node.ownCode (Node.asChildren nodes) context
      node.ownSize? node.ownMargin?) node.layer context.settings.widthUnit).2.1 := by
    change ((writeInline node (Node.asChildren nodes)).run context).1.2.layout = _
    rw [writeInline_run filled, decorate_run, settings_writeBody, code, layout, layer]
  rw [same]
  exact Layout.wrap_settles _ _ _ _ (isEnabled_layoutLeft enabled)

end Written

end Stating

end NodeInfo

end DesignExport
