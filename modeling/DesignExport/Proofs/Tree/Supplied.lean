import DesignExport.Proofs.Compile.Leads
import DesignExport.Proofs.Tree.Composed
import DesignExport.Proofs.Tree.Kinds
import DesignExport.Proofs.Tree.Throughout
set_option autoImplicit false

/-! What the nodes of a tree refer to is registered while the tree is built: the
parameter of a builder, those for texts and fills, and those that taps call. -/

namespace DesignExport

open Compile (Composed Lasts Leads Yields)

variable {α : Type}

/-- The names of the parameters of the widget in work. -/
def Context.paramNames (context : Context α) : List String :=
  context.scope.params.keys

/-- The parameter that a tap calls. -/
def Decorator.callback? : Decorator α → Option String
  | .tap callback => some callback
  | .pageLink _ _ | .blur _ => none

/-- Nothing is remembered of a unit. -/
structure ShapeUnit.IsFresh (unit : ShapeUnit α) : Prop where
  markup : unit.knownMarkup = none
  id : unit.knownId = none

/-- What a layer is written from is there: the block of a text, and a unit that has not
been written. -/
def NodeKind.IsWritable (layer : LayerInfo α) : NodeKind α → Prop
  | .text => ∃ block, layer.kind = .text block
  | .shape unit => unit.IsFresh
  | _ => True

/-- The parameters that a node refers to have some names, and it can be written. -/
structure NodeInfo.IsSupplied (names : List String) (node : NodeInfo α) : Prop where
  callback : ∀ decorator ∈ node.decorators, ∀ name ∈ decorator.callback?, name ∈ names
  text : ∀ name ∈ node.params.text, name ∈ names
  fill : ∀ name ∈ node.params.fill, name ∈ names
  builder : node.mode = .builder → ∃ name ∈ names, node.params.builder = some name
  kind : node.kind.IsWritable node.layer

theorem NodeInfo.IsSupplied.label {names : List String} {node : NodeInfo α}
    (supplied : node.IsSupplied names) (text : node.kind = .text) :
    ∃ block, node.layer.kind = .text block := by
  have writable := supplied.kind
  rw [text] at writable
  exact writable

theorem NodeInfo.IsSupplied.fresh {names : List String} {node : NodeInfo α}
    (supplied : node.IsSupplied names) {unit : ShapeUnit α} (shape : node.kind = .shape unit) :
    unit.IsFresh := by
  have writable := supplied.kind
  rw [shape] at writable
  exact writable

theorem NodeInfo.isSupplied_keptByShapes (names : List String) :
    Node.KeptByShapes (IsSupplied names : NodeInfo α → Prop) := by
  intro info frame members supplied
  exact ⟨supplied.callback, supplied.text, supplied.fill, supplied.builder, rfl, rfl⟩

theorem NodeInfo.IsSupplied.mono {names more : List String} {node : NodeInfo α}
    (supplied : node.IsSupplied names) (within : names ⊆ more) : node.IsSupplied more where
  callback decorator member name same := within (supplied.callback decorator member name same)
  text name same := within (supplied.text name same)
  fill name same := within (supplied.fill name same)
  builder isBuilder := by
    obtain ⟨name, known, same⟩ := supplied.builder isBuilder
    exact ⟨name, within known, same⟩
  kind := supplied.kind

/-- A parameter is registered afterwards, if not before. -/
theorem Compile.addParam_leads (param : Parameter) (before : Context α → Prop) :
    Leads before (addParam param) (fun _ context => param.name ∈ context.paramNames) := by
  intro context _
  rw [Context.paramNames]
  rcases addParam_run_scope param context with ⟨added, _⟩ | ⟨same, _, found⟩
  · have last : (param.name, param) ∈ context.scope.params ++ [(param.name, param)] :=
      List.mem_append_right _ List.mem_cons_self
    rw [added]
    exact List.mem_map_of_mem last
  · rw [same]
    exact List.mem_map_of_mem (Table.mem_of_find? found)

namespace Decorator

/-- What decorators call is registered. -/
def AreSupplied (decorators : List (Decorator α)) (context : Context α) : Prop :=
  ∀ decorator ∈ decorators, ∀ name ∈ decorator.callback?, name ∈ context.paramNames

/-- Other decorators than taps call no parameter. -/
def CallNothing (decorators : List (Decorator α)) : Prop :=
  ∀ decorator ∈ decorators, decorator.callback? = none

theorem callNothing_nil : CallNothing ([] : List (Decorator α)) :=
  fun _ absent => absurd absent List.not_mem_nil

theorem callNothing_singleton {decorator : Decorator α} (calm : decorator.callback? = none) :
    CallNothing [decorator] :=
  fun _ member => List.mem_singleton.mp member ▸ calm

theorem CallNothing.areSupplied {decorators : List (Decorator α)} (calm : CallNothing decorators)
    (context : Context α) : AreSupplied decorators context := by
  intro decorator member name same
  rw [calm decorator member] at same
  exact absurd same (Option.not_mem_none name)

theorem areSupplied_append {first second : List (Decorator α)} {context : Context α}
    (front : AreSupplied first context) (back : AreSupplied second context) :
    AreSupplied (first ++ second) context :=
  fun decorator member => (List.mem_append.mp member).elim (front decorator) (back decorator)

theorem tap?_leads (layer : LayerInfo α) (before : Context α → Prop) :
    Leads before (tap? layer) (fun found => AreSupplied found.toList) := by
  unfold tap?
  split
  case h_1 => exact Leads.pure fun context _ => callNothing_nil.areSupplied context
  case h_2 raw found =>
    refine (Compile.addParam_leads _ before).bind fun _ => Leads.pure fun context known => ?_
    intro decorator member name same
    rw [List.mem_singleton.mp member] at same
    cases same
    exact known

theorem pageLink?_yields (layer : LayerInfo α) (interactions : List (Interaction α)) :
    ∀ link : Option (Decorator α), CallNothing link.toList →
      Yields (pageLink? layer link interactions) (fun found => CallNothing found.toList) := by
  induction interactions with
  | nil => exact fun _ calm => Yields.pure calm
  | cons interaction rest ih =>
      intro link calm
      unfold pageLink?
      split
      · exact Yields.bind_any fun _ => ih link calm
      · split
        · refine Yields.bind_any fun context => ?_
          split
          · exact ih _ (callNothing_singleton rfl)
          · exact Yields.bind_any fun _ => ih none calm
        · exact Yields.bind_any fun _ => ih _ calm
        · exact Yields.bind_any fun _ => ih _ calm

theorem blur?_yields (layer : LayerInfo α) :
    Yields (blur? layer) (fun found => CallNothing found.toList) := by
  unfold blur?
  split
  · exact Yields.pure callNothing_nil
  · refine Yields.ite (fun _ => Yields.pure (callNothing_singleton rfl)) fun _ => ?_
    exact Yields.bind_any fun _ => Yields.pure callNothing_nil

end Decorator

section

variable [Scalar α] {draws : ShapeUnit α → Prop}

theorem Decorator.lasts_areSupplied (decorators : List (Decorator α)) :
    Lasts draws (AreSupplied decorators) :=
  fun composed context supplied decorator member name same =>
    (composed.scope_within context).params (supplied decorator member name same)

theorem Decorator.collect_leads (layer : LayerInfo α) (canBeTapped : Bool)
    (before : Context α → Prop) : Leads before (collect layer canBeTapped) AreSupplied := by
  refine Leads.ite_bind (tap?_leads layer before)
    (Leads.pure fun context _ => callNothing_nil.areSupplied context) fun tap => ?_
  have lasts : Lasts (fun _ => False) (AreSupplied (α := α) tap.toList) := lasts_areSupplied _
  refine (Composed.settings.carries lasts).bind fun settings => ?_
  refine Leads.ite_bind
    (((pageLink?_composed layer _ _).carries lasts).and
      ((pageLink?_yields layer _ none callNothing_nil).leads _))
    (Leads.pure fun _ supplied => ⟨supplied, callNothing_nil⟩) fun link => ?_
  refine (((blur?_composed layer).carries (lasts.and (Lasts.always _))).and
    ((blur?_yields layer).leads _)).bind fun blur => Leads.pure fun context known => ?_
  obtain ⟨⟨tapped, linked⟩, blurred⟩ := known
  exact areSupplied_append (areSupplied_append tapped (linked.areSupplied context))
    (blurred.areSupplied context)

end

/-! ### Kinds of layers -/

namespace NodeKind

theorem ofLayer?_yields_isWritable (layer : LayerInfo α) :
    Yields (ofLayer? layer) (fun found => ∀ kind ∈ found, kind.IsWritable layer) := by
  intro context kind made
  cases ofLayer?_becomes context made with
  | shape => exact ⟨rfl, rfl⟩
  | text isText => exact ⟨_, isText⟩
  | plain | scroll | rectangle | ellipse | instanceOf | unnamed => exact trivial

end NodeKind

/-! ### The parameters of a node -/

namespace RoleParams

/-- A parameter that a node may refer to is registered. -/
def IsKnown (found : Option String) (context : Context α) : Prop :=
  ∀ name ∈ found, name ∈ context.paramNames

theorem isKnown_none (context : Context α) : IsKnown none context :=
  fun name absent => absurd absent (Option.not_mem_none name)

theorem expose_leads (layer : LayerInfo α) (property : Property) (type : DartType)
    (default : String) (before : Context α → Prop) :
    Leads before (expose layer property type default) IsKnown := by
  unfold expose
  split
  case h_1 => exact Leads.pure fun context _ => isKnown_none context
  case h_2 raw found =>
    refine (Compile.addParam_leads _ before).bind fun _ => Leads.pure fun context known => ?_
    intro name same
    cases same
    exact known

/-- The parameters that a layer in some mode refers to are registered. -/
structure AreRegistered (mode : ExportMode) (params : RoleParams) (context : Context α) : Prop where
  text : IsKnown params.text context
  fill : IsKnown params.fill context
  builder : mode = .builder → ∃ name ∈ context.paramNames, params.builder = some name

variable [Scalar α] {draws : ShapeUnit α → Prop}

theorem lasts_isKnown (found : Option String) : Lasts draws (IsKnown found) :=
  fun composed context known name same =>
    (composed.scope_within context).params (known name same)

section Inline

variable {mode : ExportMode} (notBuilder : mode ≠ .builder)

include notBuilder

theorem ofText_leads (layer : LayerInfo α) (block : TextBlock α) (before : Context α → Prop) :
    Leads before (ofText layer block) (AreRegistered mode) := by
  refine (expose_leads layer _ _ _ before).bind fun text => ?_
  have lasts : Lasts (fun _ => False) (IsKnown (α := α) text) := lasts_isKnown text
  have both (fill : Option String) :
      Leads (fun context => IsKnown text context ∧ IsKnown fill context)
        (pure { text := text, fill := fill } : Compile α RoleParams) (AreRegistered mode) :=
    Leads.pure fun _ known => ⟨known.1, known.2, fun isBuilder => absurd isBuilder notBuilder⟩
  split
  · exact (((expose_composed layer _ _ _).carries lasts).and (expose_leads layer _ _ _ _)).bind both
  · have none : Leads (IsKnown text) (pure none : Compile α (Option String))
        (fun fill context => IsKnown text context ∧ IsKnown fill context) :=
      Leads.pure fun context known => ⟨known, isKnown_none context⟩
    exact none.bind both

theorem ofBox_leads (layer : LayerInfo α) (before : Context α → Prop) :
    Leads before (ofBox layer) (AreRegistered mode) := by
  have filled (fill : Option String) : Leads (IsKnown fill)
      (pure { fill := fill } : Compile α RoleParams) (AreRegistered mode) :=
    Leads.pure fun context known =>
      ⟨isKnown_none context, known, fun isBuilder => absurd isBuilder notBuilder⟩
  have nothing : Leads before (pure {} : Compile α RoleParams) (AreRegistered mode) :=
    fun context _ => filled none context (isKnown_none context)
  unfold ofBox
  split
  · exact (expose_leads layer _ _ _ before).bind filled
  · refine Leads.ite (fun _ => ?_) fun _ => nothing
    exact Leads.bind_any fun image => (expose_leads layer _ _ _ _).bind filled
  · exact nothing

end Inline

theorem register_leads (layer : LayerInfo α) (kind : NodeKind α) (mode : ExportMode)
    (before : Context α → Prop) :
    Leads before (register layer kind mode) (AreRegistered mode) := by
  refine Leads.ite (fun _ => ?_) fun notBuilder => ?_
  · refine Leads.bind_any fun settings => ?_
    refine (Compile.addParam_leads _ _).bind fun _ => Leads.pure fun context known => ?_
    exact ⟨isKnown_none context, isKnown_none context, fun _ => ⟨_, known, rfl⟩⟩
  · split
    · exact ofText_leads notBuilder layer _ before
    · exact ofBox_leads notBuilder layer before
    · exact Leads.pure fun context _ =>
        ⟨isKnown_none context, isKnown_none context, fun isBuilder => absurd isBuilder notBuilder⟩

end RoleParams

/-! ### Trees -/

namespace Node

variable [Scalar α]

/-- Every node of some trees is supplied by the widget in work. -/
def AreSupplied (nodes : List (Node α)) (context : Context α) : Prop :=
  ∀ node ∈ nodes, node.Throughout (NodeInfo.IsSupplied context.paramNames)

theorem lasts_isSupplied {draws : ShapeUnit α → Prop} (node : Node α) :
    Lasts draws (fun context => node.Throughout (NodeInfo.IsSupplied context.paramNames)) :=
  fun composed context supplied part inside =>
    (supplied part inside).mono (composed.scope_within context).params

theorem lasts_areSupplied {draws : ShapeUnit α → Prop} (nodes : List (Node α)) :
    Lasts draws (AreSupplied nodes) :=
  fun composed context supplied node member =>
    lasts_isSupplied node composed context (supplied node member)

mutual

theorem build_leads : ∀ (layer : Layer α) (before : Context α → Prop),
    Leads before (build layer) (fun found => AreSupplied found.toList)
  | ⟨layer, children⟩, before => by
      have nothing : ∀ context, AreSupplied (α := α) [] context :=
        fun _ _ absent => absurd absent List.not_mem_nil
      rw [build]
      refine Leads.ite (fun _ => Leads.pure fun context _ => nothing context) fun _ => ?_
      refine ((NodeKind.ofLayer?_yields_isWritable layer).leads before).bind fun found => ?_
      cases found with
      | none => exact Leads.pure fun context _ => nothing context
      | some kind =>
          refine Leads.of_fact fun writable => ?_
          refine Leads.bind_any fun mode => ?_
          refine Leads.bind_any fun layout => ?_
          refine (Decorator.collect_leads layer _ _).bind fun decorators => ?_
          have called : Lasts (fun _ => False) (Decorator.AreSupplied (α := α) decorators) :=
            Decorator.lasts_areSupplied _
          refine Leads.ite_bind
            (((buildAll_composed children).carries called).and (buildAll_leads children _))
            (Leads.pure fun context known => ⟨known, nothing context⟩) fun nodes => ?_
          refine (((RoleParams.register_composed layer kind mode).carries
            (called.and (lasts_areSupplied nodes))).and
              (RoleParams.register_leads layer kind mode _)).bind
            fun params => Leads.pure fun context known => ?_
          obtain ⟨⟨calls, below⟩, registered⟩ := known
          intro node member
          rw [List.mem_singleton.mp member]
          exact throughout_mk.mpr ⟨⟨calls, registered.text, registered.fill, registered.builder,
            writable kind rfl⟩, below⟩

theorem buildAll_leads : ∀ (layers : List (Layer α)) (before : Context α → Prop),
    Leads before (buildAll layers) AreSupplied
  | [], _ => Leads.pure fun _ _ _ absent => absurd absent List.not_mem_nil
  | layer :: rest, before => by
      rw [buildAll]
      refine (build_leads layer before).bind fun node => ?_
      have lasts : Lasts (fun _ => False) (AreSupplied node.toList) := lasts_areSupplied _
      refine (((buildAll_composed rest).carries lasts).and (buildAll_leads rest _)).bind
        fun nodes => Leads.pure fun context known => ?_
      intro other member
      exact (List.mem_append.mp member).elim (known.1 other) (known.2 other)

end

theorem buildRoot_leads (layer : Layer α) (before : Context α → Prop) :
    Leads before (buildRoot layer)
      (fun root context => root.Throughout (NodeInfo.IsSupplied context.paramNames)) := by
  refine (buildAll_leads layer.children before).bind fun nodes => Leads.pure fun context supplied => ?_
  refine throughout_mk.mpr ⟨?_, supplied⟩
  exact ⟨fun _ absent => absurd absent List.not_mem_nil, RoleParams.isKnown_none context,
    RoleParams.isKnown_none context, nofun, trivial⟩

end Node

end DesignExport
