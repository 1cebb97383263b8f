import DesignExport.Proofs.Tree.Reach
import DesignExport.Proofs.Tree.Units
set_option autoImplicit false

/-! The layers that a tree is to show, and where it shows them. They lie in no group that
is marked for export, and the shape pass keeps all of them. A layer that is to be shown is
shown by a node of its own, as a primitive of a unit, or by the background that it becomes;
otherwise it stands behind a background that shows nothing of it. -/

namespace DesignExport

open Compile (Yields)

variable {α : Type}

/-! ### The layers to show -/

namespace LayerKind

/-- Layers with something of their own to draw. -/
def isDrawing : LayerKind α → Bool
  | .rectangle _ | .ellipse | .path _ | .line _ | .polygon _ | .booleanGroup _ | .text _ => true
  | .artboard | .group | .scrollGroup _ | .component _ _ | .unknown => false

/-- Groups that draw their children where they are. -/
def isGroup : LayerKind α → Bool
  | .group | .scrollGroup _ => true
  | _ => false

/-- What is drawn along an outline is no such group. -/
theorem isGroup_eq_false {kind : LayerKind α} {outline : String}
    (outlined : kind.outline? = some outline) : kind.isGroup = false := by
  cases kind with
  | group | scrollGroup => cases outlined
  | artboard | rectangle | ellipse | path | line | polygon | booleanGroup | text | component
    | unknown => rfl

end LayerKind

namespace Layer

mutual

/-- Visible layers with something of their own to draw, in visible groups that are not
marked for export. -/
def shown : Layer α → List (LayerInfo α)
  | ⟨info, children⟩ =>
      if info.isVisible then
        if info.kind.isDrawing then [info]
        else if info.kind.isGroup && !info.isMarkedForExport then shownAll children
        else []
      else []

def shownAll : List (Layer α) → List (LayerInfo α)
  | [] => []
  | layer :: rest => shown layer ++ shownAll rest

end

end Layer

namespace Node

mutual

/-- Boxes, texts and the primitives of shapes, in groups that are not shown as images. -/
def shown : Node α → List (LayerInfo α)
  | ⟨info, children⟩ =>
      match info.kind with
      | .shape unit => unit.primitives
      | .box | .text => [info.layer]
      | .widgetRoot => shownAll children
      | .group _ => if info.isDrawnGroup then shownAll children else []

def shownAll : List (Node α) → List (LayerInfo α)
  | [] => []
  | node :: rest => shown node ++ shownAll rest

end

theorem shownAll_append (first second : List (Node α)) :
    shownAll (first ++ second) = shownAll first ++ shownAll second := by
  induction first with
  | nil => rfl
  | cons node rest ih => rw [List.cons_append, shownAll, shownAll, ih, List.append_assoc]

theorem shownAll_flatMap {β : Type} (items : List β) (nodes : β → List (Node α)) :
    shownAll (items.flatMap nodes) = items.flatMap (fun item => shownAll (nodes item)) := by
  induction items with
  | nil => rfl
  | cons item rest ih => rw [List.flatMap_cons, List.flatMap_cons, shownAll_append, ih]

theorem mem_shownAll {layer : LayerInfo α} {nodes : List (Node α)} :
    layer ∈ shownAll nodes ↔ ∃ node ∈ nodes, layer ∈ node.shown := by
  induction nodes with
  | nil => simp [shownAll]
  | cons node rest ih =>
      rw [shownAll, List.mem_append, ih]
      simp only [List.mem_cons, exists_eq_or_imp]

theorem shown_of_holds {info : NodeInfo α}
    (holds : info.kind = .widgetRoot ∨ info.isDrawnGroup = true) (children : List (Node α)) :
    shown ⟨info, children⟩ = shownAll children := by
  rw [shown]
  rcases holds with root | drawn
  · rw [root]
  · rw [drawn]
    unfold NodeInfo.isDrawnGroup at drawn
    cases kind : info.kind with
    | group inside => rfl
    | widgetRoot | box | shape | text => simp [kind] at drawn

/-! ### The shape pass -/

theorem shown_of_picture {node : Node α} (picture : node.isPicture = true) :
    node.shown = node.leaves := by
  obtain ⟨info, children⟩ := node
  change info.isPicture = true at picture
  rw [shown, leaves]
  unfold NodeInfo.isPicture at picture
  cases kind : info.kind with
  | box | shape => rfl
  | widgetRoot | group | text => simp [kind] at picture

theorem shownAll_of_pictures {nodes : List (Node α)}
    (pictures : ∀ node ∈ nodes, node.isPicture = true) : shownAll nodes = leavesAll nodes := by
  induction nodes with
  | nil => rfl
  | cons node rest ih =>
      obtain ⟨first, others⟩ := List.forall_mem_cons.mp pictures
      rw [shownAll, leavesAll, shown_of_picture first, ih others]

theorem shownAll_mergeRun {run : List (Node α)} (isRun : IsRun run) :
    shownAll (mergeRun run) = shownAll run := by
  match run with
  | [] => rfl
  | [_] => rfl
  | first :: second :: others =>
      rcases isRun with pictures | ⟨node, single⟩
      · have merged : ∀ node ∈ mergeRun (first :: second :: others), node.isPicture = true := by
          obtain ⟨picture, rest⟩ := List.forall_mem_cons.mp pictures
          have shape := isShape_foldl_absorb (second :: others) first.asShape
            (asShape_of_picture picture).1 rest
          intro node member
          rw [List.mem_singleton.mp member]
          unfold NodeInfo.isShape at shape
          unfold NodeInfo.isPicture
          split at shape
          next known => rw [known]
          next => cases shape
        rw [shownAll_of_pictures merged, shownAll_of_pictures pictures]
        exact leavesAll_mergeRun (Or.inl pictures)
      · cases single

theorem shownAll_mergedChildren (eager : Bool) (info : NodeInfo α) (children : List (Node α)) :
    shownAll (mergedChildren eager info children) = shownAll children := by
  unfold mergedChildren
  split
  · rfl
  · have flat := shownAll_flatMap (siblingRuns eager (hasBackground ⟨info, children⟩) children) id
    rw [List.flatMap_id, flatten_siblingRuns] at flat
    rw [mergeSiblings_eq_flatMap, shownAll_flatMap, flat]
    exact List.flatMap_congr fun run member =>
      shownAll_mergeRun (isRun_of_mem_siblingRuns _ _ _ run member)

variable [Scalar α]

theorem shown_collapse (node : Node α) : node.collapse.shown = node.shown := by
  rcases collapse_cases node with same | ⟨child, unit, only, shape, -, -, collapsible, collapsed⟩
  · rw [same]
  · obtain ⟨info, children⟩ := node
    change children = [child] at only
    have drawn : info.isDrawnGroup = true := by
      rw [NodeInfo.isDrawnGroup, plain_of_isCollapsible collapsible,
        unmarked_of_isCollapsible collapsible]
      rfl
    have inside : child.shown = unit.primitives := by
      have picture : child.isPicture = true := by rw [NodeInfo.isPicture, shape]
      rw [shown_of_picture picture, leaves_of_shape shape]
    rw [collapsed, shown_of_holds (Or.inr drawn), only, shownAll, shownAll, List.append_nil, inside]
    exact ShapeUnit.primitives_framed info.layer unit

mutual

/-- The shape pass takes nothing away from what is to be shown. -/
theorem shown_combineShapes : ∀ (node : Node α) (eager : Bool),
    (node.combineShapes eager).shown = node.shown
  | ⟨info, children⟩, eager => by
      have below : shownAll (mergedChildren (isEagerBelow info.layer eager) info
          (combineAll children (isEagerBelow info.layer eager))) = shownAll children := by
        rw [shownAll_mergedChildren, shownAll_combineAll]
      rw [combineShapes, shown_collapse, mergeChildren_eq, shown, shown, below]

theorem shownAll_combineAll : ∀ (nodes : List (Node α)) (eager : Bool),
    shownAll (combineAll nodes eager) = shownAll nodes
  | [], _ => rfl
  | node :: rest, eager => by
      rw [combineAll, shownAll, shownAll, shown_combineShapes node eager,
        shownAll_combineAll rest eager]

end

end Node

/-! ### The build -/

/-- A kind that shows a layer if the layer is to be shown. -/
structure NodeKind.Exposes (layer : LayerInfo α) (kind : NodeKind α) : Prop where
  own : layer.kind.isDrawing = true →
    kind = .box ∨ kind = .text ∨ kind = .shape (ShapeUnit.ofPrimitive layer)
  group : layer.kind.isGroup = true →
    kind = .group .plain ∨ ∃ direction, kind = .group (.scroll direction)
  suits : kind.Suits layer

theorem NodeKind.ofLayer?_yields_exposes (layer : LayerInfo α) :
    Yields (NodeKind.ofLayer? layer) (fun found =>
      (found = none → layer.kind.isDrawing = false ∧ layer.kind.isGroup = false) ∧
        ∀ kind ∈ found, kind.Exposes layer) := by
  intro context
  refine ⟨fun nothing => ?_, fun kind made => ?_⟩
  · rcases ofLayer?_eq_none context nothing with artboard | unknown
    · rw [artboard]
      exact ⟨rfl, rfl⟩
    · rw [unknown]
      exact ⟨rfl, rfl⟩
  · have suits := ofLayer?_yields layer context kind made
    cases ofLayer?_becomes context made with
    | plain isGroup => exact ⟨by rw [isGroup]; nofun, fun _ => Or.inl rfl, suits⟩
    | @scroll direction scrolls =>
        exact ⟨by rw [scrolls]; nofun, fun _ => Or.inr ⟨direction, rfl⟩, suits⟩
    | rectangle isRectangle => exact ⟨fun _ => Or.inl rfl, by rw [isRectangle]; nofun, suits⟩
    | ellipse isEllipse => exact ⟨fun _ => Or.inl rfl, by rw [isEllipse]; nofun, suits⟩
    | text isText => exact ⟨fun _ => Or.inr (Or.inl rfl), by rw [isText]; nofun, suits⟩
    | shape outlined =>
        refine ⟨fun _ => Or.inr (Or.inr rfl), fun isGroup => ?_, suits⟩
        rw [LayerKind.isGroup_eq_false outlined] at isGroup
        cases isGroup
    | instanceOf isComponent | unnamed isComponent =>
        exact ⟨by rw [isComponent]; nofun, by rw [isComponent]; nofun, suits⟩

namespace Node

/-- Nodes that show all layers that are to be shown of some, and no others. -/
structure Show (layers : List (Layer α)) (nodes : List (Node α)) : Prop where
  all : List.Sublist (Layer.shownAll layers) (shownAll nodes)
  only : List.Sublist (shownAll nodes) ((Layer.flattenAll layers).map (·.toLayerInfo))

theorem Show.append {layers otherLayers : List (Layer α)} {nodes otherNodes : List (Node α)}
    (first : Show layers nodes) (second : Show otherLayers otherNodes) :
    Show (layers ++ otherLayers) (nodes ++ otherNodes) := by
  have shown : ∀ front : List (Layer α), Layer.shownAll (front ++ otherLayers) =
      Layer.shownAll front ++ Layer.shownAll otherLayers := by
    intro front
    induction front with
    | nil => rfl
    | cons layer rest ih =>
        rw [List.cons_append, Layer.shownAll, Layer.shownAll, ih, List.append_assoc]
  have flat : ∀ front : List (Layer α), Layer.flattenAll (front ++ otherLayers) =
      Layer.flattenAll front ++ Layer.flattenAll otherLayers := by
    intro front
    induction front with
    | nil => rfl
    | cons layer rest ih =>
        rw [List.cons_append, Layer.flattenAll, Layer.flattenAll, ih, List.append_assoc]
  constructor
  · rw [shown, shownAll_append]
    exact first.all.append second.all
  · rw [flat, List.map_append, shownAll_append]
    exact first.only.append second.only

theorem show_nil {layer : Layer α} (hidden : layer.shown = []) : Show [layer] [] := by
  constructor
  · rw [Layer.shownAll, Layer.shownAll, hidden]
    exact List.Sublist.slnil
  · exact List.nil_sublist _

section Single

variable {info : NodeInfo α} {children : List (Layer α)} {nodes : List (Node α)}
  (exposes : info.kind.Exposes info.layer)
  (below : info.kind.takesChildren = true → Show children nodes)

include exposes below

theorem sublist_shown_of_exposes :
    List.Sublist (Layer.shown ⟨info.layer, children⟩) (shown ⟨info, nodes⟩) := by
  rw [Layer.shown]
  split
  case isFalse => exact List.nil_sublist _
  case isTrue =>
    split
    case isTrue drawing =>
      rw [shown]
      rcases exposes.own drawing with kind | kind | kind
      · rw [kind]
      · rw [kind]
      · rw [kind]
        exact List.Sublist.refl _
    case isFalse =>
      split
      case isFalse => exact List.nil_sublist _
      case isTrue opened =>
        obtain ⟨group, unmarked⟩ := Bool.and_eq_true_iff.mp opened
        have holds : info.isDrawnGroup = true ∧ info.kind.takesChildren = true := by
          rw [NodeInfo.isDrawnGroup]
          rcases exposes.group group with kind | ⟨direction, kind⟩
          · rw [kind]
            exact ⟨unmarked, rfl⟩
          · rw [kind]
            exact ⟨unmarked, rfl⟩
        rw [shown_of_holds (Or.inr holds.1)]
        exact (below holds.2).all

theorem shown_sublist_of_exposes : List.Sublist (shown ⟨info, nodes⟩)
    (info.layer :: (Layer.flattenAll children).map (·.toLayerInfo)) := by
  have own : List.Sublist [info.layer]
      (info.layer :: (Layer.flattenAll children).map (·.toLayerInfo)) :=
    List.Sublist.cons_cons _ (List.nil_sublist _)
  have suits := exposes.suits
  rw [shown]
  cases kind : info.kind with
  | widgetRoot =>
      rw [kind] at suits
      exact suits.elim
  | box | text => exact own
  | shape unit =>
      rw [kind] at suits
      have primitives : unit = ShapeUnit.ofPrimitive info.layer := suits
      rw [primitives]
      exact own
  | group inner =>
      dsimp only
      split
      case isFalse => exact List.nil_sublist _
      case isTrue drawn =>
        have takes : info.kind.takesChildren = true := by
          rw [NodeInfo.isDrawnGroup, kind] at drawn
          rw [kind]
          cases inner with
          | plain | scroll => rfl
          | instanceOf => cases drawn
        exact (below takes).only.cons _

theorem show_single : Show [⟨info.layer, children⟩] [⟨info, nodes⟩] := by
  constructor
  · rw [shownAll, shownAll, Layer.shownAll, Layer.shownAll, List.append_nil, List.append_nil]
    exact sublist_shown_of_exposes exposes below
  · rw [shownAll, shownAll, Layer.flattenAll, Layer.flattenAll, Layer.flatten, List.append_nil,
      List.append_nil]
    exact shown_sublist_of_exposes exposes below

end Single

variable [Scalar α]

mutual

/-- What is built of a layer shows what is to be shown of it. -/
theorem build_yields_show : ∀ layer : Layer α,
    Yields (build layer) (fun found => Show [layer] found.toList)
  | ⟨layer, children⟩ => by
      rw [build]
      refine Yields.ite (fun hidden => Yields.pure (show_nil ?_)) fun _ => ?_
      · rw [Layer.shown, if_neg (by simpa using hidden)]
      refine Yields.bind (NodeKind.ofLayer?_yields_exposes layer) fun found known => ?_
      cases found with
      | none =>
          obtain ⟨noDrawing, noGroup⟩ := known.1 rfl
          refine Yields.pure (show_nil ?_)
          rw [Layer.shown, noDrawing, noGroup]
          exact ite_self _
      | some kind =>
          refine Yields.bind_any fun mode => Yields.bind_any fun layout => ?_
          refine Yields.bind_any fun decorators => ?_
          have built : Yields (buildAll children)
              (fun nodes => kind.takesChildren = true → Show children nodes) :=
            fun context _ => buildAll_yields_show children context
          refine Yields.ite_bind (fun _ => built)
            (fun takesNone => Yields.pure fun takes => absurd takes takesNone) fun nodes below => ?_
          refine Yields.bind_any fun params => Yields.pure ?_
          let info : NodeInfo α := ⟨layer, kind, layout, decorators, mode, params⟩
          have shown : Show [⟨info.layer, children⟩] [⟨info, nodes⟩] :=
            show_single (known.2 kind rfl) below
          exact shown

theorem buildAll_yields_show : ∀ layers : List (Layer α), Yields (buildAll layers) (Show layers)
  | [] => Yields.pure ⟨List.Sublist.slnil, List.Sublist.slnil⟩
  | layer :: rest => by
      rw [buildAll]
      refine Yields.bind (build_yields_show layer) fun node first => ?_
      exact Yields.bind (buildAll_yields_show rest) fun nodes others =>
        Yields.pure (first.append others)

end

end Node

end DesignExport
