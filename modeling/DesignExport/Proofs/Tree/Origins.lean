import DesignExport.Proofs.Compile.Keeps
import DesignExport.Proofs.Tree.Composed
import DesignExport.Proofs.Tree.Kinds
import DesignExport.Proofs.Tree.Throughout
set_option autoImplicit false

/-! Where the nodes of a tree come from. The build decides about a layer by the document, the
settings and the names of widgets, so the same layer always becomes the same node, and what
holds of every node that can be made of some layers holds throughout their tree. -/

namespace DesignExport

section Deciding

open Compile (Building Composed Keeps)

variable {α β γ : Type}

/-- Two contexts are about one document with one choice of settings and names. -/
structure Context.Shares (first second : Context α) : Prop where
  index_eq : first.index = second.index
  settings_eq : first.settings = second.settings
  widgetNames_eq : first.widgetNames = second.widgetNames

theorem Context.shares_of_idle_eq {first second : Context α} (same : first.idle = second.idle) :
    first.Shares second :=
  ⟨index_eq_of_idle_eq same, settings_eq_of_idle_eq same, widgetNames_eq_of_idle_eq same⟩

theorem Context.Shares.refl (context : Context α) : context.Shares context :=
  ⟨rfl, rfl, rfl⟩

theorem Context.Shares.trans {first second third : Context α} (one : first.Shares second)
    (other : second.Shares third) : first.Shares third :=
  ⟨one.index_eq.trans other.index_eq, one.settings_eq.trans other.settings_eq,
    one.widgetNames_eq.trans other.widgetNames_eq⟩

theorem Context.Shares.buildsLike [Scalar α] {places : LayerInfo α → Prop}
    {first second : Context α} (same : first.Shares second) : first.BuildsLike places second where
  settings_eq := same.settings_eq
  widgetNames_eq := same.widgetNames_eq
  masters_eq _ := by rw [same.index_eq]
  inputs_eq _ _ := by rw [same.index_eq]

namespace Compile

/-- The result of a step depends on nothing but the document, the settings and the names
of widgets. -/
def Decides (step : Compile α β) : Prop :=
  ∀ first second : Context α, first.Shares second → (step.run first).1 = (step.run second).1

/-- Whatever a step draws, it leaves alone what lasts. -/
theorem keeps_idle [Scalar α] {step : Compile α β}
    (composed : Composed (fun _ => True) (fun _ => True) True True step)
    (start : Context α) : Keeps (fun context => context.idle = start.idle) step (fun _ => True) :=
  fun context same => ⟨trivial, (composed.framed.idle_eq context).trans same⟩

theorem Yields.keeps_idle [Scalar α] {step : Compile α β} {property : β → Prop}
    (yields : Yields step property)
    (composed : Composed (fun _ => True) (fun _ => True) True True step)
    (start : Context α) : Keeps (fun context => context.idle = start.idle) step property :=
  fun context same => ⟨yields context, (composed.framed.idle_eq context).trans same⟩

theorem settings_keeps_idle (start : Context α) :
    Keeps (fun context => context.idle = start.idle) settings (· = start.settings) :=
  fun _ same => ⟨Context.settings_eq_of_idle_eq same, same⟩

theorem noting_keeps_idle (result : β × Log) (start : Context α) :
    Keeps (fun context => context.idle = start.idle) (noting result) (· = result.1) :=
  fun _ same => ⟨rfl, same⟩

theorem inheritedOpacity_keeps_idle [Scalar α] (layer : LayerInfo α) (start : Context α) :
    Keeps (fun context => context.idle = start.idle) (inheritedOpacity layer)
      (· = start.index.inheritedOpacity layer) := by
  intro context same
  refine ⟨?_, same⟩
  rw [← Context.index_eq_of_idle_eq same]
  rfl

theorem decides_of_building [Scalar α] {step : Compile α β}
    (building : Building (fun _ => True) True step) : Decides step :=
  fun _ _ same => building.run_eq same.buildsLike

/-- What is built is decided at the start. -/
theorem keeps_shares [Scalar α] {step : Compile α β}
    (building : Building (fun _ => True) True step) (start : Context α) :
    Keeps (fun context => context.Shares start) step (· = (step.run start).1) :=
  fun context same =>
    ⟨building.run_eq same.buildsLike,
      (Context.shares_of_idle_eq (building.framed.idle_eq context)).trans same⟩

end Compile

open Compile (Decides)

variable [Scalar α]

namespace Node

theorem build_decides (layer : Layer α) : Decides (build layer) :=
  Compile.decides_of_building (build_building layer fun _ _ => trivial)

theorem buildAll_decides (layers : List (Layer α)) : Decides (buildAll layers) :=
  Compile.decides_of_building (buildAll_building layers fun _ _ => trivial)

theorem buildRoot_decides (layer : Layer α) : Decides (buildRoot layer) :=
  Compile.decides_of_building (buildRoot_building layer fun _ _ => trivial)

end Node

end Deciding

/-! ### Nodes and their layers

Each node below a root is made of a visible layer,
with all that is decided about that layer, and its children are made of layers below it. So
what holds of every node that can be made of some layers holds throughout their tree. -/

open Compile (Building Keeps keeps_shares)

variable {α : Type} [Scalar α]

/-- A node has what is decided about a layer. -/
structure NodeInfo.IsMadeOf (start : Context α) (layer : LayerInfo α) (node : NodeInfo α) : Prop where
  layer_eq : node.layer = layer
  isVisible : layer.isVisible = true
  becomes : node.kind.Becomes start layer
  mode_eq : node.mode = ((ExportMode.ofLayer layer).run start).1
  layout_eq : node.layout = ((Layout.ofLayer layer).run start).1
  decorators_eq : node.decorators =
    ((Decorator.collect layer (Node.canBeTapped node.mode)).run start).1
  params_eq : node.params = ((RoleParams.register layer node.kind node.mode).run start).1

theorem NodeInfo.IsMadeOf.decorates {start : Context α} {layer : LayerInfo α} {node : NodeInfo α}
    (made : node.IsMadeOf start layer) {decorator : Decorator α}
    (member : decorator ∈ node.decorators) :
    decorator.Decorates start layer (Node.canBeTapped node.mode) := by
  rw [made.decorators_eq] at member
  have keeps := Decorator.collect_keeps_decorates start layer (Node.canBeTapped node.mode)
  exact (keeps start (Compile.SameGround.refl start)).1 decorator member

namespace Node

variable {start : Context α}

/-! ### Layers and nodes -/

theorem buildAll_run (start : Context α) (layers : List (Layer α)) :
    ((buildAll layers).run start).1 =
      layers.flatMap (fun layer => ((build layer).run start).1.toList) := by
  induction layers with
  | nil => rfl
  | cons layer rest ih =>
      have same : ((buildAll (layer :: rest)).run start).1 = ((build layer).run start).1.toList ++
          ((buildAll rest).run ((build layer).run start).2).1 := rfl
      have composed : Compile.Composed (fun _ => True) (fun _ => True) True True (build layer) :=
        build_composed layer
      rw [same, buildAll_decides rest _ start
        (Context.shares_of_idle_eq (composed.framed.idle_eq start)), ih, List.flatMap_cons]

theorem exists_of_mem_buildAll {layers : List (Layer α)} {node : Node α}
    (member : node ∈ ((buildAll layers).run start).1) :
    ∃ layer ∈ layers, ((build layer).run start).1 = some node := by
  rw [buildAll_run, List.mem_flatMap] at member
  obtain ⟨layer, inside, found⟩ := member
  exact ⟨layer, inside, Option.mem_toList.mp found⟩

/-- The node that a layer becomes if it is drawn as some kind. -/
def made (start : Context α) (layer : Layer α) (kind : NodeKind α) : Node α :=
  let mode := ((ExportMode.ofLayer layer.toLayerInfo).run start).1
  { layer := layer.toLayerInfo
    kind := kind
    layout := ((Layout.ofLayer layer.toLayerInfo).run start).1
    decorators := ((Decorator.collect layer.toLayerInfo (canBeTapped mode)).run start).1
    mode := mode
    params := ((RoleParams.register layer.toLayerInfo kind mode).run start).1
    children := if kind.takesChildren then ((buildAll layer.children).run start).1 else [] }

/-- All that is decided about a layer is decided by the context in which its build starts. -/
theorem build_run (start : Context α) (layer : Layer α) : ((build layer).run start).1 =
    if layer.isVisible then
      ((NodeKind.ofLayer? layer.toLayerInfo).run start).1.map (made start layer)
    else none := by
  obtain ⟨info, children⟩ := layer
  have keeps : Keeps (fun context => context.Shares start) (build ⟨info, children⟩) (· =
      if info.isVisible then ((NodeKind.ofLayer? info).run start).1.map (made start ⟨info, children⟩)
      else none) := by
    rw [build]
    refine Keeps.ite (fun hidden => Keeps.pure ?_) fun visible => ?_
    · rw [Bool.not_eq_true'] at hidden
      rw [hidden]
      rfl
    rw [Bool.not_eq_true, Bool.not_eq_false'] at visible
    refine (keeps_shares (NodeKind.ofLayer?_building info) start).bind fun found kinds => ?_
    rw [visible, ← kinds]
    cases found with
    | none => exact Keeps.pure rfl
    | some kind =>
        refine (keeps_shares (ExportMode.ofLayer_building info) start).bind fun mode modes => ?_
        refine (keeps_shares (Building.place trivial) start).bind fun layout layouts => ?_
        refine (keeps_shares (Decorator.collect_building info _) start).bind
          fun decorators collected => ?_
        have taken (takes : kind.takesChildren = true) :
            Keeps (fun context => context.Shares start) (buildAll children) (· =
              if kind.takesChildren then ((buildAll children).run start).1 else []) := by
          rw [if_pos takes]
          exact keeps_shares (buildAll_building children fun _ _ => trivial) start
        have left (takesNone : ¬ kind.takesChildren = true) :
            Keeps (fun context => context.Shares start) (pure []) (· =
              if kind.takesChildren then ((buildAll children).run start).1 else []) := by
          rw [if_neg takesNone]
          exact Keeps.pure rfl
        refine Keeps.ite_bind taken left fun nodes all => ?_
        refine (keeps_shares (RoleParams.register_building info kind mode) start).bind
          fun params registered => Keeps.pure ?_
        subst modes layouts collected all registered
        rfl
  exact (keeps start (Context.Shares.refl start)).1

/-- A node is made of its layer, and its children of layers below that. -/
theorem build_run_eq_some {layer : Layer α} {node : Node α}
    (built : ((build layer).run start).1 = some node) : node.IsMadeOf start layer.toLayerInfo ∧
      ∀ child ∈ node.children, ∃ source ∈ layer.children,
        ((build source).run start).1 = some child := by
  rw [build_run] at built
  split at built
  case isTrue visible =>
    obtain ⟨kind, decided, same⟩ := Option.map_eq_some_iff.mp built
    subst same
    have becomes := NodeKind.ofLayer?_becomes start decided
    refine ⟨⟨rfl, visible, becomes, rfl, rfl, rfl, rfl⟩, fun child member => ?_⟩
    rw [made] at member
    split at member
    · exact exists_of_mem_buildAll member
    · exact absurd member List.not_mem_nil
  case isFalse => cases built

/-! ### All nodes of a tree -/

mutual

/-- Each part of a tree is itself built of a layer. -/
theorem exists_source {part : Node α} : ∀ {layer : Layer α} {node : Node α},
    ((build layer).run start).1 = some node → part ∈ node.parts →
      ∃ source ∈ layer.flatten, ((build source).run start).1 = some part
  | ⟨layer, children⟩, ⟨info, nodes⟩, built, inside => by
      rw [Layer.flatten]
      rcases mem_parts.mp inside with same | ⟨child, member, deeper⟩
      · exact ⟨_, List.mem_cons_self, same ▸ built⟩
      · obtain ⟨below, among, origin⟩ := (build_run_eq_some built).2 child member
        obtain ⟨source, found, made⟩ := exists_source_of_mem among origin deeper
        exact ⟨source, List.mem_cons_of_mem _ found, made⟩

theorem exists_source_of_mem {part : Node α} : ∀ {layers : List (Layer α)} {layer : Layer α}
    {node : Node α}, layer ∈ layers → ((build layer).run start).1 = some node → part ∈ node.parts →
      ∃ source ∈ Layer.flattenAll layers, ((build source).run start).1 = some part
  | first :: rest, layer, node, member, built, inside => by
      rw [Layer.flattenAll]
      rcases List.mem_cons.mp member with same | later
      · rw [same] at built
        obtain ⟨source, found, made⟩ := exists_source built inside
        exact ⟨source, List.mem_append_left _ found, made⟩
      · obtain ⟨source, found, made⟩ := exists_source_of_mem later built inside
        exact ⟨source, List.mem_append_right _ found, made⟩

end

/-- Each part of the nodes that are built of some layers is built of one of these or of a
layer below them. -/
theorem exists_source_of_mem_buildAll {layers : List (Layer α)} {node part : Node α}
    (member : node ∈ ((buildAll layers).run start).1) (inside : part ∈ node.parts) :
    ∃ source ∈ Layer.flattenAll layers, ((build source).run start).1 = some part := by
  obtain ⟨layer, among, built⟩ := exists_of_mem_buildAll member
  exact exists_source_of_mem among built inside

/-- What holds of a root, and of all that can be made of the layers below it, holds of the
whole tree. -/
theorem buildRoot_throughout {layer : Layer α} {property : NodeInfo α → Prop}
    (each : ∀ source ∈ Layer.flattenAll layer.children, ∀ info : NodeInfo α,
      info.IsMadeOf start source.toLayerInfo → property info)
    (root : property ((buildRoot layer).run start).1.toNodeInfo) :
    ((buildRoot layer).run start).1.Throughout property := by
  refine throughout_mk.mpr ⟨root, fun child member part inside => ?_⟩
  obtain ⟨source, among, built⟩ := exists_source_of_mem_buildAll member inside
  exact each source among part.toNodeInfo (build_run_eq_some built).1

end Node

/-- A node has what was decided about its layer. -/
structure NodeInfo.IsDecided (start : Context α) (node : NodeInfo α) : Prop where
  mode_eq : node.mode = ((ExportMode.ofLayer node.layer).run start).1
  layout_eq : node.layout = ((Layout.ofLayer node.layer).run start).1
  decorators_eq : node.decorators =
    ((Decorator.collect node.layer (Node.canBeTapped node.mode)).run start).1

/-- Nodes of the same layer are special for the same reasons. -/
theorem NodeInfo.IsDecided.same {start : Context α} {first second : NodeInfo α}
    (one : first.IsDecided start) (other : second.IsDecided start)
    (layers : first.layer = second.layer) :
    first.mode = second.mode ∧ first.layout = second.layout ∧
      first.decorators = second.decorators := by
  have modes : first.mode = second.mode := by rw [one.mode_eq, other.mode_eq, layers]
  refine ⟨modes, ?_, ?_⟩
  · rw [one.layout_eq, other.layout_eq, layers]
  · rw [one.decorators_eq, other.decorators_eq, layers, modes]

theorem NodeInfo.IsMadeOf.isDecided {start : Context α} {layer : LayerInfo α} {node : NodeInfo α}
    (made : node.IsMadeOf start layer) : node.IsDecided start := by
  have own := made.layer_eq
  refine ⟨?_, ?_, ?_⟩
  · rw [own]
    exact made.mode_eq
  · rw [own]
    exact made.layout_eq
  · rw [own]
    exact made.decorators_eq

/-- The nodes below a root are decided by the context in which it is built. -/
theorem Node.buildRoot_isDecided (start : Context α) (layer : Layer α) :
    ∀ node ∈ ((buildRoot layer).run start).1.children,
      node.Throughout (NodeInfo.IsDecided start) := by
  intro node member part inside
  obtain ⟨source, among, built⟩ := exists_source_of_mem_buildAll member inside
  exact (build_run_eq_some built).1.isDecided

end DesignExport
