import DesignExport.Proofs.Document.Relocated
import DesignExport.Proofs.Tree.Origins
import DesignExport.Proofs.Tree.Units
set_option autoImplicit false

/-! The tree of a layer that sits in another place. Its node differs in its layer and its
layout, and in nothing else: no step of the build reads the place of a layer but the layout
of the layer itself and the frames of the layers below. -/

namespace DesignExport

open Compile (Building)

variable {α : Type} [Scalar α]

/-! ### What is read of a document -/

theorem LayoutInput.ofLayer_eq_of_frames {owner other : Option (LayerInfo α)}
    (same : owner.map ParentFrame.ofLayer = other.map ParentFrame.ofLayer) (layer : LayerInfo α) :
    ofLayer layer owner = ofLayer layer other := by
  unfold ofLayer
  rw [same]

namespace Document.Relocates

variable {first second : Document α} {moved : Layer α} {place : LayerInfo α}
  {later : List (Layer α)} (relocates : first.Relocates second moved place later)

include relocates

/-- For the layers below the moved one, the build reads the same of both documents. -/
theorem buildsLike (absent : ∀ layer ∈ Layer.flattenAll moved.children, ∀ other ∈ later,
    other.guid ≠ layer.guid) (settings : Settings) (target : Target) :
    (Context.start (Index.ofDocument first) settings target).BuildsLike
      (fun info => ∃ part ∈ Layer.flattenAll moved.children, part.toLayerInfo = info)
      (Context.start (Index.ofDocument second) settings target) where
  settings_eq := rfl
  widgetNames_eq :=
    Context.nameWidgets_placeless settings [] [] (Index.widgets_placeless relocates.records)
  masters_eq := Index.master?_guid relocates.records
  inputs_eq := by
    rintro _ ⟨part, below, rfl⟩
    have frames := relocates.frame_eq below (absent part below)
    refine LayoutInput.ofLayer_eq_of_frames ?_ _
    rw [Option.map_map, Option.map_map]
    exact frames

theorem looksLike (settings : Settings) (target : Target) :
    (Context.start (Index.ofDocument first) settings target).LooksLike
      (Context.start (Index.ofDocument second) settings target) where
  settings := rfl
  target := rfl
  opacity := Index.inheritedOpacity_eq relocates.records
  raster := rfl

end Document.Relocates

/-! ### What is built the same -/

section

omit [Scalar α]

variable (layer place : LayerInfo α)

theorem ExportMode.ofLayer_movedTo :
    ExportMode.ofLayer (layer.movedTo place) = ExportMode.ofLayer layer :=
  rfl

/-- Only the shape of a layer with an outline has the layer in it. -/
theorem NodeKind.ofLayer?_movedTo (plain : layer.kind.isOutlined = false) :
    ofLayer? (layer.movedTo place) = ofLayer? layer := by
  have kinds : (layer.movedTo place).kind = layer.kind := rfl
  unfold ofLayer?
  rw [kinds]
  cases kind : layer.kind with
  | path | line | polygon | booleanGroup =>
      rw [kind] at plain
      cases plain
  | _ => rfl

theorem Decorator.pageLink?_movedTo (interactions : List (Interaction α)) :
    ∀ link : Option (Decorator α), pageLink? (layer.movedTo place) link interactions =
      pageLink? layer link interactions := by
  induction interactions with
  | nil => exact fun _ => rfl
  | cons interaction rest ih =>
      intro link
      have warns (message : String) :
          Compile.warn message (layer.movedTo place) = Compile.warn message layer := rfl
      unfold pageLink?
      simp only [ih, warns]

theorem Decorator.collect_movedTo [Scalar α] (canBeTapped : Bool) :
    collect (layer.movedTo place) canBeTapped = collect layer canBeTapped := by
  have taps : tap? (layer.movedTo place) = tap? layer := rfl
  have blurs : blur? (layer.movedTo place) = blur? layer := rfl
  have links : pageLink? (layer.movedTo place) none (layer.movedTo place).interactions =
      pageLink? layer none layer.interactions := pageLink?_movedTo layer place _ none
  unfold collect
  rw [taps, blurs, links]

theorem RoleParams.register_movedTo [Scalar α] (kind : NodeKind α) (mode : ExportMode) :
    register (layer.movedTo place) kind mode = register layer kind mode :=
  rfl

end

/-! ### Nodes -/

def NodeInfo.movedTo (node : NodeInfo α) (place : LayerInfo α) (layout : Layout α) : NodeInfo α :=
  { node with layer := node.layer.movedTo place, layout := layout }

def Node.movedTo (node : Node α) (place : LayerInfo α) (layout : Layout α) : Node α :=
  ⟨node.toNodeInfo.movedTo place layout, node.children⟩

namespace Node

/-- A layer without an outline becomes the same node in another place, but for its layer and
its layout. -/
theorem build_movedTo {first second : Context α} {layer : Layer α} (place : LayerInfo α)
    (alike : first.BuildsLike
      (fun info => ∃ part ∈ Layer.flattenAll layer.children, part.toLayerInfo = info) second)
    (plain : layer.kind.isOutlined = false) :
    ∃ layout, ((build (layer.movedTo place)).run second).1 =
      ((build layer).run first).1.map (·.movedTo place layout) := by
  let moved := layer.toLayerInfo.movedTo place
  -- A step that asks for the frames of layers below only has the same result in both contexts.
  -- The layout of the layer asks for its own frame, and is the one thing that may differ.
  have agrees {β : Type} {step : Compile α β} (building : Building
      (fun info => ∃ part ∈ Layer.flattenAll layer.children, part.toLayerInfo = info) True step) :
      (step.run second).1 = (step.run first).1 :=
    (building.run_eq alike).symm
  have same (kind : NodeKind α) : made second (layer.movedTo place) kind =
      (made first layer kind).movedTo place ((Layout.ofLayer moved).run second).1 := by
    rw [made, made]
    dsimp only [Layer.movedTo]
    rw [ExportMode.ofLayer_movedTo, Decorator.collect_movedTo, RoleParams.register_movedTo,
      agrees (ExportMode.ofLayer_building _), agrees (Decorator.collect_building _ _),
      agrees (RoleParams.register_building _ _ _),
      agrees (buildAll_building layer.children fun part among => ⟨part, among, rfl⟩)]
    rfl
  refine ⟨((Layout.ofLayer moved).run second).1, ?_⟩
  rw [build_run, build_run]
  change (if layer.isVisible then ((NodeKind.ofLayer? moved).run second).1.map _ else none) = _
  rw [NodeKind.ofLayer?_movedTo _ _ plain, agrees (NodeKind.ofLayer?_building _)]
  split
  · rw [Option.map_map]
    exact congrArg (fun step => Option.map step _) (funext same)
  · rfl

/-- An outline becomes a shape, wherever it is. -/
theorem isShape_of_isOutlined {start : Context α} {layer : Layer α} {node : Node α}
    (outlined : layer.kind.isOutlined = true) (built : ((build layer).run start).1 = some node) :
    node.isShape = true ∧ node.children = [] := by
  have shape : ((NodeKind.ofLayer? layer.toLayerInfo).run start).1 =
      some (.shape (ShapeUnit.ofPrimitive layer.toLayerInfo)) := by
    unfold NodeKind.ofLayer?
    cases kind : layer.kind with
    | path | line | polygon | booleanGroup => rfl
    | _ =>
        rw [kind] at outlined
        cases outlined
  rw [build_run, shape] at built
  split at built
  · cases built
    exact ⟨rfl, rfl⟩
  · cases built

/-! ### The shape pass -/

/-- The pass leaves a node alone that does not become a shape, but for its children. -/
theorem combineShapes_eq {info : NodeInfo α} {children : List (Node α)} {eager : Bool}
    (kept : (combineShapes ⟨info, children⟩ eager).isShape = false) :
    combineShapes ⟨info, children⟩ eager =
      let below := isEagerBelow info.layer eager
      ⟨info, mergedChildren below info (combineAll children below)⟩ := by
  rw [combineShapes, mergeChildren_eq] at kept ⊢
  rcases collapse_cases ⟨info, mergedChildren (isEagerBelow info.layer eager) info
    (combineAll children (isEagerBelow info.layer eager))⟩ with same |
    ⟨_, _, -, -, -, -, -, collapsed⟩
  · exact same
  · rw [collapsed] at kept
    cases kept

theorem combineShapes_movedTo {node : Node α} {place : LayerInfo α} {layout : Layout α} {eager : Bool}
    (one : (node.combineShapes eager).isShape = false)
    (other : ((node.movedTo place layout).combineShapes eager).isShape = false) :
    (node.movedTo place layout).combineShapes eager =
      (node.combineShapes eager).movedTo place layout := by
  obtain ⟨info, children⟩ := node
  rw [movedTo] at other ⊢
  rw [combineShapes_eq one, combineShapes_eq other]
  rfl

end Node

end DesignExport
