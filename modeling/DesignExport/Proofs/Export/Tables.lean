import DesignExport.Number.Exact
import DesignExport.Proofs.Export.Declarations
import DesignExport.Proofs.Tree.Asked
set_option autoImplicit false

/-! The tables of a widget and of a piece of code. Once a tree is built they hold the
parameters that the tree asks for and nothing else; writing the tree adds the methods of the
layers in method mode that it reaches, and no parameters. Each table has every name once, but
the tables know nothing of each other, though the class of a widget has a member for each name
in them. -/

namespace DesignExport

open Compile (Asks Building Composed)

variable {α β : Type}

/-- The tables of a widget whose tree has been built, which asks for some parameters. -/
structure WidgetScope.IsBuilt (scope : WidgetScope) (demands : List Demand) : Prop where
  demands_eq : scope.demands = Demand.enterAll [] demands
  distinct : scope.IsDistinct
  noMethods : scope.methods = []
  noPictures : scope.pictures = []

theorem WidgetScope.mem_keys_iff_of_demands_eq {scope : WidgetScope} {demands : List Demand}
    (met : scope.demands = Demand.enterAll [] demands) {name : String} :
    name ∈ scope.params.keys ↔ name ∈ demands.map (·.name) := by
  rw [← scope.names_demands, met, Demand.mem_names_enterAll]
  exact or_iff_right List.not_mem_nil

theorem WidgetScope.IsBuilt.mem_keys_iff {scope : WidgetScope} {demands : List Demand}
    (built : scope.IsBuilt demands) {name : String} :
    name ∈ scope.params.keys ↔ name ∈ demands.map (·.name) :=
  mem_keys_iff_of_demands_eq built.demands_eq

/-- The parameters of a widget are those that some demands ask for, each with a name of its
own. -/
structure WidgetScope.Meets (scope : WidgetScope) (demands : List Demand) : Prop where
  demands_eq : scope.demands = Demand.enterAll [] demands
  distinct : scope.params.keys.Nodup
  named : scope.NamesParams

theorem Context.Serves.shares {document : Document α} {settings : Settings}
    {first second : Context α} (one : first.Serves document settings)
    (other : second.Serves document settings) : first.Shares second :=
  ⟨one.index_eq.trans other.index_eq.symm, one.settings_eq.trans other.settings_eq.symm,
    one.widgetNames_eq.trans other.widgetNames_eq.symm⟩

variable [Scalar α]

theorem Compile.Asks.isBuilt {step : Compile α β} {asks : β → List Demand → Prop}
    (asked : Asks step asks) (composed : Composed (fun _ => False) (fun _ => False) True True step)
    {context : Context α} {widget : String} (fresh : context.scope = WidgetScope.empty widget) :
    ∃ demands, asks (step.run context).1 demands ∧ (step.run context).2.scope.IsBuilt demands := by
  obtain ⟨demands, known, entered⟩ := asked context
  refine ⟨demands, known, ?_, ?_, ?_, ?_⟩
  · rw [entered, fresh]
    rfl
  · refine composed.keeps_scope (WidgetScope.isKept_isDistinct _ _ _ _ _) context rfl rfl ?_
    rw [fresh]
    exact ⟨List.nodup_nil, List.nodup_nil⟩
  · have methods := composed.methodsFrom context
    rw [fresh] at methods
    have keys : (step.run context).2.scope.methods.keys = [] := by
      refine List.eq_nil_iff_forall_not_mem.mpr fun name member => ?_
      rcases methods name member with early | ⟨_, none, _⟩
      · exact absurd early List.not_mem_nil
      · exact none
    exact List.map_eq_nil_iff.mp keys
  · have pictures := composed.picturesFrom context
    rw [fresh] at pictures
    refine List.eq_nil_iff_forall_not_mem.mpr fun entry member => ?_
    rcases pictures entry member with early | ⟨_, none, _⟩
    · exact absurd early List.not_mem_nil
    · exact none

/-- A context in which a widget has been begun goes on with what the context before has. -/
theorem shares_begun (start : Context α) {widget : Compile α String}
    (composed : Composed (fun _ => True) (fun _ => True) True True widget) :
    (((widget >>= Compile.beginWidget).run start).2).Shares start :=
  Context.shares_of_idle_eq
    ((composed.framed.bind fun name => Compile.beginWidget_framed name).idle_eq start)

/-! ### Trees that are built -/

/-- The tables of a widget whose tree is built hold what the tree asked for before its
shapes were merged. -/
theorem widgetTree_isBuilt (layer : Layer α) (start : Context α) :
    ((widgetTree layer).run start).2.scope.IsBuilt
      ((Node.buildRoot layer).run start).1.demands := by
  let begun := ((widgetClass layer.toLayerInfo >>= Compile.beginWidget).run start).2
  have shares : begun.Shares start :=
    shares_begun start (Composed.get (fun _ => Composed.pure _) fun _ => rfl)
  obtain ⟨demands, asked, built⟩ := (Node.buildRoot_asks layer).isBuilt
    (Node.buildRoot_composed layer) (rfl : begun.scope = _)
  rw [Node.buildRoot_decides layer begun start shares] at asked
  rw [← asked]
  exact built

theorem widgetTree_run (layer : Layer α) (start : Context α) :
    ((widgetTree layer).run start).1 =
      ((Node.buildRoot layer).run start).1.combineShapes start.settings.combineShapes := by
  let begun := ((widgetClass layer.toLayerInfo >>= Compile.beginWidget).run start).2
  have shares : begun.Shares start :=
    shares_begun start (Composed.get (fun _ => Composed.pure _) fun _ => rfl)
  have composed : Composed (fun _ => True) (fun _ => True) True True (Node.buildRoot layer) :=
    Node.buildRoot_composed layer
  have settings : ((Node.buildRoot layer).run begun).2.settings = start.settings :=
    (composed.framed.settings_eq begun).trans shares.settings_eq
  rw [← Node.buildRoot_decides layer begun start shares, ← settings]
  rfl

theorem Node.mergedCopy?_building (layer : Layer α) :
    Building (fun _ => True) True (mergedCopy? layer) := by
  refine (build_building layer fun _ _ => trivial).bind fun found => ?_
  cases found with
  | none => exact Building.pure _
  | some node => exact Building.settings.bind fun _ => Building.pure _

/-- A copied layer becomes what it becomes in its widget, before its shapes are merged. -/
theorem snippetTree_run (layer : Layer α) (start : Context α) :
    ((snippetTree layer).run start).1 = ((Node.build layer).run start).1.map
      (·.unplaced.combineShapes start.settings.combineShapes) := by
  let begun := ((snippetWidget layer >>= Compile.beginWidget).run start).2
  have shares : begun.Shares start :=
    shares_begun start (Composed.get (fun _ => Composed.pure _) fun _ => rfl)
  have split : ((snippetTree layer).run start).1 = ((Node.mergedCopy? layer).run begun).1 := rfl
  rw [split, Node.mergedCopy?, Compile.run_bind, Node.build_decides layer begun start shares]
  cases ((Node.build layer).run start).1 with
  | none => rfl
  | some node =>
      have composed : Composed (fun _ => True) (fun _ => True) True True (Node.build layer) :=
        Node.build_composed layer
      have settings : ((Node.build layer).run begun).2.settings = start.settings :=
        (composed.framed.settings_eq begun).trans shares.settings_eq
      rw [← settings]
      rfl

/-- A snippet is about to be written with tables that hold what its tree asked for. -/
theorem snippetTree_isBuilt {layer : Layer α} {start ready : Context α} {tree : Node α}
    (built : (snippetTree layer).run start = (some tree, ready)) :
    ∃ demands, ready.scope.IsBuilt demands := by
  let begun := ((snippetWidget layer >>= Compile.beginWidget).run start).2
  obtain ⟨demands, -, fresh⟩ := (Node.build_asks layer).isBuilt
    (Node.build_composed layer) (rfl : begun.scope = _)
  have split : ((Node.mergedCopy? layer).run begun).2.scope =
      ((Node.build layer).run begun).2.scope := by
    rw [Node.mergedCopy?, Compile.run_bind]
    cases ((Node.build layer).run begun).1 <;> rfl
  have same : (snippetTree layer).run start = (Node.mergedCopy? layer).run begun := rfl
  rw [← same, built] at split
  exact ⟨demands, split ▸ fresh⟩

/-- A snippet that is about to be written is supplied like a widget. -/
theorem snippetTree_isReady {layer : Layer α} {start ready : Context α} {tree : Node α}
    (built : (snippetTree layer).run start = (some tree, ready)) :
    Context.IsReadyFor tree start ready := by
  let begun := ((snippetWidget layer >>= Compile.beginWidget).run start).2
  have composed : Composed (fun _ => False) (fun _ => False) True True (Node.build layer) :=
    Node.build_composed layer
  have leads := Node.build_leads layer (fun _ => True) begun trivial
  have kept := composed.keeps_scope (WidgetScope.isKept_namesParams _ _ _ _ _) begun rfl rfl
    (fun _ absent => absurd absent List.not_mem_nil)
  have idle := composed.framed.idle_eq begun
  have split : (snippetTree layer).run start = (Node.mergedCopy? layer).run begun := rfl
  obtain ⟨_, fresh⟩ := snippetTree_isBuilt built
  rw [split, Node.mergedCopy?, Compile.run_bind] at built
  generalize (Node.build layer).run begun = result at built leads kept idle
  obtain ⟨found, after⟩ := result
  cases found with
  | none => cases built
  | some node =>
      cases built
      have every := leads node List.mem_cons_self
      have unplaced : node.unplaced.Throughout (NodeInfo.IsSupplied after.paramNames) := by
        obtain ⟨info, children⟩ := node
        rw [Node.throughout_mk] at every
        obtain ⟨own, below⟩ := every
        refine Node.throughout_mk.mpr ⟨?_, below⟩
        exact ⟨own.callback, own.text, own.fill, own.builder, own.kind⟩
      exact ⟨idle, Node.throughout_combineShapes (NodeInfo.isSupplied_keptByShapes _) _ _ unplaced,
        kept, fresh.noPictures⟩

/-! ### Tables of trees that are written -/

namespace Node

variable {tree part : Node α} {start ready : Context α}

/-- Once a tree is written the table of methods has those of the layers whose methods the
tree builds. -/
theorem mem_methods_iff (isReady : Context.IsReadyFor tree start ready)
    (noMethods : ready.scope.methods = []) {name : String} :
    name ∈ (tree.write.run ready).2.scope.methods.keys ↔
      ∃ layer, tree.Builds layer ∧ name = layer.methodName start.settings.normalizeNameCase := by
  have settings : ready.settings = start.settings := Context.settings_eq_of_idle_eq isReady.idle_eq
  constructor
  · intro member
    have methods := tree.write_composed.methodsFrom ready name member
    rw [noMethods, settings] at methods
    exact methods.resolve_left List.not_mem_nil
  · rintro ⟨layer, ⟨part, reaches, isMethod, present, own⟩, same⟩
    have label := (isSupplied_of_reaches isReady reaches).label
    have called := writeWith_leads_call isMethod label present
    have left : part.layer.HasMethod (tree.write.run ready).2 :=
      reaches.leads part.layer.lasts_hasMethod
        (fun edit => (called edit).mono fun _ _ both => both.2) id ready trivial
    rw [LayerInfo.HasMethod, tree.write_composed.framed.settings_eq, settings, own] at left
    rw [same]
    exact left

/-- Writing a tree adds no parameters. -/
theorem params_write (tree : Node α) (ready : Context α) :
    (tree.write.run ready).2.scope.params = ready.scope.params :=
  tree.write_composed.params_eq not_false ready

theorem isDistinct_write (tree : Node α) (distinct : ready.scope.IsDistinct) :
    (tree.write.run ready).2.scope.IsDistinct :=
  tree.write_composed.keeps_scope (WidgetScope.isKept_isDistinct _ _ _ _ _) ready rfl rfl distinct

end Node

/-- The parameters in the code of a widget are those that its tree asked for. -/
theorem widgetCode_meets (layer : Layer α) (start : Context α) :
    let className := ((widgetClass layer.toLayerInfo).run start).1
    let code := ((widgetCode layer className).run start).1
    code.2.Meets ((Node.buildRoot layer).run start).1.demands := by
  intro className code
  obtain ⟨tree, ready, built⟩ : ∃ tree ready, (widgetTree layer).run start = (tree, ready) :=
    ⟨_, _, rfl⟩
  have scope : code.2 = (tree.write.run ready).2.scope := congrArg Prod.snd (widgetCode_run built)
  have params : code.2.params = ready.scope.params := by rw [scope, Node.params_write]
  have isBuilt := widgetTree_isBuilt layer start
  rw [built] at isBuilt
  refine ⟨?_, ?_, ?_⟩
  · rw [WidgetScope.demands, params]
    exact isBuilt.demands_eq
  · rw [params]
    exact isBuilt.distinct.params
  · rw [WidgetScope.NamesParams, params]
    exact (widgetTree_isReady built).named

/-! ### Members of the class -/

/-- The names of the members of a class with some tables, in the order of its file. -/
def WidgetScope.memberNames (scope : WidgetScope) : List String :=
  scope.params.keys ++ "build" :: scope.methods.keys

theorem WidgetScope.IsDistinct.nodup_memberNames_iff {scope : WidgetScope}
    (distinct : scope.IsDistinct) : scope.memberNames.Nodup ↔
      "build" ∉ scope.params.keys ∧
        ∀ name ∈ scope.methods.keys, name ≠ "build" ∧ name ∉ scope.params.keys := by
  rw [memberNames, List.nodup_append, List.nodup_cons]
  constructor
  · rintro ⟨-, ⟨fixed, -⟩, apart⟩
    refine ⟨fun known => apart _ known _ List.mem_cons_self rfl, fun name member => ⟨?_, ?_⟩⟩
    · exact fun same => fixed (same ▸ member)
    · exact fun known => apart _ known _ (List.mem_cons_of_mem _ member) rfl
  · rintro ⟨fixed, apart⟩
    refine ⟨distinct.params, ⟨fun member => (apart _ member).1 rfl, distinct.methods⟩, ?_⟩
    intro name known other member same
    rcases List.mem_cons.mp member with build | method
    · exact fixed (build ▸ same ▸ known)
    · exact (apart other method).2 (same ▸ known)

/-- A file has a field or a method with a name. -/
def SourceFile.HasMember (file : SourceFile) (nullSafe : Bool) (name : String) : Prop :=
  (∃ param : Parameter, param.name = name ∧ file.Has (field nullSafe param)) ∨
    ∃ code, file.Has (method name code)

theorem SourceFile.hasMember_of_mem {className body : String} {scope : WidgetScope}
    {nullSafe : Bool} {name : String} (named : scope.NamesParams)
    (member : name ∈ scope.memberNames) :
    (ofWidget className body scope nullSafe).HasMember nullSafe name := by
  rcases List.mem_append.mp member with param | method
  · obtain ⟨⟨_, param⟩, known, same⟩ := List.mem_map.mp param
    exact Or.inl ⟨param, (named _ known).trans same, has_field known⟩
  · rcases List.mem_cons.mp method with build | method
    · rw [build]
      exact Or.inr ⟨body, has_body className body scope nullSafe⟩
    · obtain ⟨⟨_, code⟩, known, same⟩ := List.mem_map.mp method
      cases same
      exact Or.inr ⟨code, has_method known⟩

/-- No name of the class of a widget means two members: no parameter that its tree asks for
and no method that is built has the name of the method for the widget, and no method has the
name of a parameter. -/
structure Node.NamesMembersApart (normalize : Bool) (root tree : Node α) : Prop where
  param : ∀ demand ∈ root.demands, demand.name ≠ "build"
  method : ∀ layer, tree.Builds layer → layer.methodName normalize ≠ "build"
  apart : ∀ layer, tree.Builds layer → ∀ demand ∈ root.demands,
    demand.name ≠ layer.methodName normalize

/-- The members of the class of a widget have distinct names exactly if its parameters and
its methods are named apart. -/
theorem compileWidget_memberNames (layer : Layer α) (start : Context α) :
    let root := ((Node.buildRoot layer).run start).1
    let tree := ((widgetTree layer).run start).1
    let className := ((widgetClass layer.toLayerInfo).run start).1
    let code := ((widgetCode layer className).run start).1
    let file := SourceFile.ofWidget className code.1 code.2 start.settings.nullSafe
    ((compileWidget layer).run start).1 = .ok file ∧
      (∀ name ∈ code.2.memberNames, file.HasMember start.settings.nullSafe name) ∧
      (code.2.memberNames.Nodup ↔ root.NamesMembersApart start.settings.normalizeNameCase tree) := by
  intro root tree className code file
  obtain ⟨ready, built⟩ : ∃ ready, (widgetTree layer).run start = (tree, ready) := ⟨_, rfl⟩
  have isReady := widgetTree_isReady built
  have isBuilt : ready.scope.IsBuilt root.demands := by
    have fresh := widgetTree_isBuilt layer start
    rw [built] at fresh
    exact fresh
  have scope : code.2 = (tree.write.run ready).2.scope := congrArg Prod.snd (widgetCode_run built)
  have params (name : String) : name ∈ code.2.params.keys ↔ ∃ demand ∈ root.demands,
      demand.name = name := by
    rw [scope, Node.params_write, isBuilt.mem_keys_iff, List.mem_map]
  have methods (name : String) : name ∈ code.2.methods.keys ↔
      ∃ layer, tree.Builds layer ∧ name = layer.methodName start.settings.normalizeNameCase := by
    rw [scope, Node.mem_methods_iff isReady isBuilt.noMethods]
  have named : code.2.NamesParams := by
    rw [scope]
    exact tree.write_composed.keeps_scope (WidgetScope.isKept_namesParams _ _ _ _ _) ready rfl rfl
      isReady.named
  refine ⟨compileWidget_run_ok layer start, fun name member => ?_, ?_⟩
  · exact SourceFile.hasMember_of_mem named member
  · have distinct : code.2.IsDistinct := scope ▸ Node.isDistinct_write tree isBuilt.distinct
    rw [distinct.nodup_memberNames_iff]
    constructor
    · rintro ⟨fixed, apart⟩
      refine ⟨fun demand asked same => ?_, fun owner builds => ?_, fun owner builds demand asked => ?_⟩
      · exact fixed ((params _).mpr ⟨demand, asked, same⟩)
      · exact (apart _ ((methods _).mpr ⟨owner, builds, rfl⟩)).1
      · intro same
        exact (apart _ ((methods _).mpr ⟨owner, builds, rfl⟩)).2 ((params _).mpr ⟨demand, asked, same⟩)
    · intro named
      refine ⟨fun known => ?_, fun name member => ?_⟩
      · obtain ⟨demand, asked, same⟩ := (params _).mp known
        exact named.param demand asked same
      · obtain ⟨owner, builds, same⟩ := (methods _).mp member
        rw [same]
        refine ⟨named.method owner builds, fun known => ?_⟩
        obtain ⟨demand, asked, equal⟩ := (params _).mp known
        exact named.apart owner builds demand asked equal

/-- A page with a button that calls a parameter by the name of the method for the page. -/
def builtButtonPage : Layer Rat :=
  let button : LayerInfo Rat :=
    { LayerInfo.usual "button" "Button" .ellipse with
      properties := [("tapCallbackName", .text "build")] }
  ⟨LayerInfo.usual "home" "Home" .artboard, [⟨button, []⟩]⟩

/-- What is written for the page, and that nothing is noted meanwhile. -/
theorem widgetCode_builtButtonPage :
    let start := Context.start (Index.ofDocument ⟨[], [builtButtonPage], ⟨[], []⟩⟩) {} .files
    let coded := (widgetCode builtButtonPage "Home").run start
    coded.1.2.memberNames = ["build", "build"] ∧ coded.2.log = [] := by
  decide +kernel

/-- A class with two members of one name, about which nothing is said. -/
theorem memberNames_builtButtonPage :
    let start := Context.start (Index.ofDocument ⟨[], [builtButtonPage], ⟨[], []⟩⟩) {} .files
    let code := ((widgetCode builtButtonPage "Home").run start).1
    ((compileWidget builtButtonPage).run start).2.log = [] ∧
      code.2.memberNames = ["build", "build"] ∧ ¬ code.2.memberNames.Nodup := by
  have facts := widgetCode_builtButtonPage
  dsimp only at facts ⊢
  have named : ((widgetClass builtButtonPage.toLayerInfo).run (Context.start
      (Index.ofDocument ⟨[], [builtButtonPage], ⟨[], []⟩⟩) {} .files)).1 = "Home" := by decide +kernel
  refine ⟨?_, facts.1, ?_⟩
  · rw [compileWidget_run_context named]
    exact facts.2
  · rw [facts.1]
    decide

end DesignExport
