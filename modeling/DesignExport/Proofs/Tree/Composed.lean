import DesignExport.Proofs.Compile.Writing
import DesignExport.Tree.Build
set_option autoImplicit false

/-! Building a tree is put together from basic steps. They render and draw nothing and record
no font; of the document they read which widget a component is an instance of, and where a
layer is placed. -/

namespace DesignExport

section BuildingSteps

variable {α β γ : Type} [Scalar α]

/-- What the layout of a layer is computed from. -/
def Index.layoutInput (index : Index α) (layer : LayerInfo α) : LayoutInput α :=
  LayoutInput.ofLayer layer ((index.parentOf? layer.guid).map (·.toLayerInfo))

/-- What building reads is the same in two contexts, for as many layers as it places. -/
structure Context.BuildsLike (places : LayerInfo α → Prop) (first second : Context α) : Prop where
  settings_eq : first.settings = second.settings
  widgetNames_eq : first.widgetNames = second.widgetNames
  masters_eq : ∀ symbol, (first.index.master? symbol).map (·.guid) =
    (second.index.master? symbol).map (·.guid)
  inputs_eq : ∀ layer, places layer →
    first.index.layoutInput layer = second.index.layoutInput layer

namespace Context.BuildsLike

variable {places : LayerInfo α → Prop} {first second third : Context α}

theorem of_idle_eq (same : first.idle = second.idle) : first.BuildsLike places second where
  settings_eq := settings_eq_of_idle_eq same
  widgetNames_eq := widgetNames_eq_of_idle_eq same
  masters_eq _ := by rw [index_eq_of_idle_eq same]
  inputs_eq _ _ := by rw [index_eq_of_idle_eq same]

theorem trans (one : first.BuildsLike places second) (other : second.BuildsLike places third) :
    first.BuildsLike places third where
  settings_eq := one.settings_eq.trans other.settings_eq
  widgetNames_eq := one.widgetNames_eq.trans other.widgetNames_eq
  masters_eq symbol := (one.masters_eq symbol).trans (other.masters_eq symbol)
  inputs_eq layer among := (one.inputs_eq layer among).trans (other.inputs_eq layer among)

end Context.BuildsLike

namespace Compile

/-- A step that is put together from the basic ones of building. The layers that it places
are among some, and it declares parameters only if it may. -/
inductive Building (places : LayerInfo α → Prop) (declares : Prop) :
    {β : Type} → Compile α β → Prop where
  | pure {β : Type} (value : β) : Building places declares (Pure.pure value)
  | bind {β γ : Type} {step : Compile α β} {next : β → Compile α γ}
      (first : Building places declares step)
      (second : ∀ value, Building places declares (next value)) :
      Building places declares (step >>= next)
  /-- Settings, names of widgets and masters are read as they are. -/
  | get {β : Type} {next : Context α → Compile α β}
      (each : ∀ context, Building places declares (next context))
      (blind : ∀ first second : Context α, first.BuildsLike (fun _ => False) second →
        next first = next second) :
      Building places declares (MonadState.get >>= next)
  | note (entries : Log) : Building places declares (Compile.note entries)
  | addParam (param : Parameter) (allowed : declares) :
      Building places declares (Compile.addParam param)
  | place {layer : LayerInfo α} (among : places layer) :
      Building places declares (Layout.ofLayer layer)

variable {places : LayerInfo α → Prop} {draws : ShapeUnit α → Prop}
  {builds : LayerInfo α → Prop} {renders declares : Prop}

namespace Building

/-! ### Steps that are used often -/

theorem ite {condition : Prop} [Decidable condition] {first second : Compile α β}
    (yes : Building places declares first) (no : Building places declares second) :
    Building places declares (if condition then first else second) := by
  split
  · exact yes
  · exact no

theorem ite_bind {condition : Prop} [Decidable condition] {first second : Compile α β}
    {next : β → Compile α γ} (yes : Building places declares first)
    (no : Building places declares second)
    (rest : ∀ value, Building places declares (next value)) :
    Building places declares (if condition then first >>= next else second >>= next) :=
  ite (yes.bind rest) (no.bind rest)

theorem warn (message : String) (layer : LayerInfo α) :
    Building places declares (Compile.warn message layer) :=
  note _

theorem error (message : String) (layer : LayerInfo α) :
    Building places declares (Compile.error message layer) :=
  note _

theorem settings : Building places declares (Compile.settings : Compile α Settings) :=
  get (fun _ => pure _) fun _ _ alike => by rw [alike.settings_eq]

/-! ### What building has in common -/

theorem composed {step : Compile α β} (building : Building places declares step) :
    Composed draws builds renders declares step := by
  induction building with
  | pure value => exact Composed.pure value
  | bind _ _ first second => exact first.bind second
  | get _ blind each =>
      exact Composed.get each fun context => blind context.bare context (.of_idle_eq rfl)
  | note entries => exact Composed.note entries
  | addParam param allowed => exact Composed.addParam param allowed
  | place _ => exact Composed.get (fun _ => Composed.pure _) fun _ => rfl

theorem framed {step : Compile α β} (building : Building places declares step) : Framed step := by
  have steps : Composed (fun _ => True) (fun _ => True) True declares step := building.composed
  exact steps.framed

theorem raster_eq {step : Compile α β} (building : Building places declares step)
    (context : Context α) : (step.run context).2.raster = context.raster := by
  have steps : Composed (fun _ => True) (fun _ => True) False declares step := building.composed
  exact steps.raster_eq not_false context

theorem fonts_eq {step : Compile α β} (building : Building places declares step) :
    ∀ context : Context α, (step.run context).2.fonts = context.fonts := by
  induction building with
  | pure value => exact fun _ => rfl
  | bind _ _ ihFirst ihSecond => exact fun context => (ihSecond _ _).trans (ihFirst context)
  | get _ _ ihEach => exact fun context => ihEach context context
  | note entries => exact fun _ => rfl
  | addParam param _ =>
      intro context
      rw [Compile.addParam, run_get_bind]
      split
      · rfl
      · split <;> rfl
  | place _ => exact fun _ => rfl

/-- Building leaves alone what writing looks at. -/
theorem looksLike {step : Compile α β} {other : Compile α γ} {elsewhere : LayerInfo α → Prop}
    {alsoDeclares : Prop} (building : Building places declares step)
    (also : Building elsewhere alsoDeclares other) {first second : Context α}
    (alike : first.LooksLike second) : (step.run first).2.LooksLike (other.run second).2 where
  settings := by rw [building.framed.settings_eq, also.framed.settings_eq, alike.settings]
  target := by rw [building.framed.target_eq, also.framed.target_eq, alike.target]
  opacity := by rw [building.framed.index_eq, also.framed.index_eq, alike.opacity]
  raster := by rw [building.raster_eq, also.raster_eq, alike.raster]

/-- In contexts that look alike, building gives the same result. -/
theorem run_eq {step : Compile α β} (building : Building places declares step) :
    ∀ {first second : Context α}, first.BuildsLike places second →
      (step.run first).1 = (step.run second).1 := by
  induction building with
  | pure value => exact fun _ => rfl
  | @bind _ _ step next first _ ihFirst ihSecond =>
      intro one other alike
      have left : (step.run one).2.BuildsLike places one := .of_idle_eq (first.framed.idle_eq one)
      have right : other.BuildsLike places (step.run other).2 :=
        .of_idle_eq (first.framed.idle_eq other).symm
      rw [run_bind, run_bind, ihFirst alike]
      exact ihSecond _ (left.trans (alike.trans right))
  | get each blind ihEach =>
      intro first second alike
      rw [run_get_bind, run_get_bind, blind first second
        ⟨alike.settings_eq, alike.widgetNames_eq, alike.masters_eq, fun _ => False.elim⟩]
      exact ihEach second alike
  | note entries => exact fun _ => rfl
  | addParam param _ => exact fun _ => rfl
  | place among =>
      exact fun alike => congrArg Layout.ofInput (alike.inputs_eq _ among)

end Building

theorem composed_of_building {step : Compile α β} (building : Building (fun _ => True) declares step) :
    Composed draws builds renders declares step :=
  building.composed

end Compile

end BuildingSteps

/-! ### The steps of a build

Building a tree and decorating code are put together from basic steps. Neither of
them draws anything. -/

open Compile (Building Composed Framed Writing)

variable {α : Type} [Scalar α] {places : LayerInfo α → Prop} {uses : TextRun α → Prop}
  {draws : ShapeUnit α → Prop} {builds : LayerInfo α → Prop} {renders declares : Prop}

namespace AssetImage

theorem name_writing (layer : LayerInfo α) : Writing uses draws builds renders (name layer) := by
  refine Writing.settings.bind fun settings => ?_
  split
  · exact Writing.pure _
  · exact (Writing.warn _ layer).bind fun _ => Writing.pure _

theorem ofFill_writing (layer : LayerInfo α) : Writing uses draws builds renders (ofFill layer) :=
  (name_writing layer).bind fun _ => Writing.pure _

theorem ofFill_composed (layer : LayerInfo α) :
    Composed draws builds renders declares (ofFill layer) :=
  Compile.composed_of_writing (ofFill_writing layer)

/-- The default of an image parameter is written while the tree is built. -/
theorem ofFill_building (layer : LayerInfo α) : Building places declares (ofFill layer) := by
  have named : Building places declares (name layer) := by
    refine Building.settings.bind fun settings => ?_
    split
    · exact Building.pure _
    · exact (Building.warn _ layer).bind fun _ => Building.pure _
  exact named.bind fun _ => Building.pure _

end AssetImage

namespace Decorator

theorem apply_writing (child : String) (decorator : Decorator α) :
    Writing uses draws builds renders (decorator.apply child) := by
  cases decorator with
  | tap callback => exact Writing.pure _
  | pageLink widget transition =>
      exact (Writing.addDirective (by decide)).bind fun _ => Writing.pure _
  | blur amount => exact (Writing.addDirective (by decide)).bind fun _ => Writing.pure _

theorem applyAll_writing (decorators : List (Decorator α)) :
    ∀ code : String, Writing uses draws builds renders (applyAll code decorators) := by
  induction decorators with
  | nil => exact fun _ => Writing.pure _
  | cons decorator rest ih => exact fun code => (apply_writing code decorator).bind ih

theorem applyAll_composed (decorators : List (Decorator α)) (code : String) :
    Composed draws builds renders declares (applyAll code decorators) :=
  Compile.composed_of_writing (applyAll_writing decorators code)

theorem tap?_building (layer : LayerInfo α) : Building places True (tap? layer) := by
  unfold tap?
  split
  · exact Building.pure _
  · exact (Building.addParam _ trivial).bind fun _ => Building.pure _

theorem pageLink?_building (layer : LayerInfo α) (interactions : List (Interaction α)) :
    ∀ link : Option (Decorator α),
      Building places declares (pageLink? layer link interactions) := by
  induction interactions with
  | nil => exact fun _ => Building.pure _
  | cons interaction rest ih =>
      intro link
      have skipped (message : String) (found : Option (Decorator α)) :
          Building places declares (do Compile.warn message layer; pageLink? layer found rest) :=
        (Building.warn message layer).bind fun _ => ih found
      unfold pageLink?
      split
      · exact skipped _ _
      · split
        · refine Building.get (fun context => ?_) fun first second alike => ?_
          · split
            · exact ih _
            · exact skipped _ _
          · rw [Context.widgetName?, Context.widgetName?, alike.widgetNames_eq]
        · exact skipped _ _
        · exact skipped _ _

theorem pageLink?_composed (layer : LayerInfo α) (interactions : List (Interaction α))
    (link : Option (Decorator α)) :
    Composed draws builds renders declares (pageLink? layer link interactions) :=
  Compile.composed_of_building (pageLink?_building layer interactions link)

theorem blur?_building (layer : LayerInfo α) : Building places declares (blur? layer) := by
  unfold blur?
  split
  · exact Building.pure _
  · exact Building.ite (Building.pure _) ((Building.warn _ _).bind fun _ => Building.pure _)

theorem blur?_composed (layer : LayerInfo α) :
    Composed draws builds renders declares (blur? layer) :=
  Compile.composed_of_building (blur?_building layer)

theorem collect_building (layer : LayerInfo α) (canBeTapped : Bool) :
    Building places True (collect layer canBeTapped) := by
  unfold collect
  refine Building.ite_bind (tap?_building layer) (Building.pure _) fun tap => ?_
  refine Building.settings.bind fun settings => ?_
  refine Building.ite_bind (pageLink?_building layer _ _) (Building.pure _) fun link => ?_
  exact (blur?_building layer).bind fun _ => Building.pure _

end Decorator

theorem Layout.ofLayer_composed (layer : LayerInfo α) :
    Composed draws builds renders declares (Layout.ofLayer layer) :=
  Compile.composed_of_building (Building.place trivial)

theorem ExportMode.ofLayer_building (layer : LayerInfo α) :
    Building places declares (ExportMode.ofLayer layer) := by
  unfold ExportMode.ofLayer
  split
  · exact Building.pure _
  · split
    · exact Building.pure _
    · exact (Building.warn _ _).bind fun _ => Building.pure _

theorem ExportMode.ofLayer_composed (layer : LayerInfo α) :
    Composed draws builds renders declares (ExportMode.ofLayer layer) :=
  Compile.composed_of_building (ExportMode.ofLayer_building layer)

namespace NodeKind

theorem ofComponent_building (layer : LayerInfo α) (isMaster : Bool) (symbol : String) :
    Building places declares (ofComponent layer isMaster symbol) := by
  refine Building.get (fun context => ?_) fun first second alike => ?_
  · dsimp only
    split
    · exact Building.pure _
    · exact (Building.warn _ _).bind fun _ => Building.pure _
  · unfold Context.widgetName?
    rw [alike.masters_eq, alike.widgetNames_eq]

theorem ofLayer?_building (layer : LayerInfo α) : Building places declares (ofLayer? layer) := by
  unfold ofLayer?
  cases layer.kind with
  | artboard => exact (Building.error _ _).bind fun _ => Building.pure _
  | unknown => exact (Building.warn _ _).bind fun _ => Building.pure _
  | component isMaster symbol =>
      exact (ofComponent_building layer isMaster symbol).bind fun _ => Building.pure _
  | group | scrollGroup | rectangle | ellipse | text => exact Building.pure _
  | path | line | polygon | booleanGroup => exact Building.pure _

theorem ofLayer?_composed (layer : LayerInfo α) :
    Composed draws builds renders declares (ofLayer? layer) :=
  Compile.composed_of_building (ofLayer?_building layer)

end NodeKind

namespace RoleParams

theorem expose_building (layer : LayerInfo α) (property : Property) (type : DartType)
    (default : String) : Building places True (expose layer property type default) := by
  unfold expose
  split
  · exact Building.pure _
  · exact (Building.addParam _ trivial).bind fun _ => Building.pure _

theorem expose_composed (layer : LayerInfo α) (property : Property) (type : DartType)
    (default : String) : Composed draws builds renders True (expose layer property type default) :=
  Compile.composed_of_building (expose_building layer property type default)

theorem ofText_building (layer : LayerInfo α) (block : TextBlock α) :
    Building places True (ofText layer block) := by
  refine (expose_building layer _ _ _).bind fun text => ?_
  split
  · exact (expose_building layer _ _ _).bind fun _ => Building.pure _
  · exact (Building.pure _).bind fun _ => Building.pure _

theorem ofBox_building (layer : LayerInfo α) : Building places True (ofBox layer) := by
  unfold ofBox
  split
  · exact (expose_building layer _ _ _).bind fun _ => Building.pure _
  · refine Building.ite ?_ (Building.pure _)
    refine (AssetImage.ofFill_building layer).bind fun image => ?_
    exact (expose_building layer _ _ _).bind fun _ => Building.pure _
  · exact Building.pure _

theorem register_building (layer : LayerInfo α) (kind : NodeKind α) (mode : ExportMode) :
    Building places True (register layer kind mode) := by
  refine Building.ite ?_ ?_
  · refine Building.settings.bind fun settings => ?_
    exact (Building.addParam _ trivial).bind fun _ => Building.pure _
  · split
    · exact ofText_building layer _
    · exact ofBox_building layer
    · exact Building.pure _

theorem register_composed (layer : LayerInfo α) (kind : NodeKind α) (mode : ExportMode) :
    Composed draws builds renders True (register layer kind mode) :=
  Compile.composed_of_building (register_building layer kind mode)

end RoleParams

namespace Node

mutual

theorem build_building : ∀ layer : Layer α,
    (∀ part ∈ layer.flatten, places part.toLayerInfo) → Building places True (build layer)
  | ⟨layer, children⟩, among => by
      rw [Layer.flatten] at among
      obtain ⟨own, below⟩ := List.forall_mem_cons.mp among
      rw [build]
      refine Building.ite (Building.pure _) ?_
      refine (NodeKind.ofLayer?_building layer).bind fun found => ?_
      cases found with
      | none => exact Building.pure _
      | some kind =>
          refine (ExportMode.ofLayer_building layer).bind fun mode => ?_
          refine (Building.place own).bind fun layout => ?_
          refine (Decorator.collect_building layer _).bind fun decorators => ?_
          refine Building.ite_bind (buildAll_building children below) (Building.pure _)
            fun nodes => ?_
          exact (RoleParams.register_building layer kind mode).bind fun _ => Building.pure _

theorem buildAll_building : ∀ layers : List (Layer α),
    (∀ part ∈ Layer.flattenAll layers, places part.toLayerInfo) →
      Building places True (buildAll layers)
  | [], _ => Building.pure _
  | layer :: rest, among => by
      rw [Layer.flattenAll, List.forall_mem_append] at among
      refine (build_building layer among.1).bind fun _ => ?_
      exact (buildAll_building rest among.2).bind fun _ => Building.pure _

end

theorem buildRoot_building (layer : Layer α)
    (among : ∀ part ∈ Layer.flattenAll layer.children, places part.toLayerInfo) :
    Building places True (buildRoot layer) :=
  (buildAll_building layer.children among).bind fun _ => Building.pure _

theorem build_composed (layer : Layer α) : Composed draws builds renders True (build layer) :=
  Compile.composed_of_building (build_building layer fun _ _ => trivial)

theorem buildAll_composed (layers : List (Layer α)) :
    Composed draws builds renders True (buildAll layers) :=
  Compile.composed_of_building (buildAll_building layers fun _ _ => trivial)

theorem buildRoot_composed (layer : Layer α) :
    Composed draws builds renders True (buildRoot layer) :=
  Compile.composed_of_building (buildRoot_building layer fun _ _ => trivial)

theorem buildRoot_framed (layer : Layer α) : Framed (buildRoot layer) :=
  Compile.framed_of_composed (buildRoot_composed layer)

end Node

end DesignExport
