import DesignExport.Proofs.Tree.Origins
import DesignExport.Proofs.Tree.Supplied
set_option autoImplicit false

/-! The parameters that a tree asks for. While a tree is built each node enters its
parameters: those for taps first, then those of the nodes below it, then those for its text,
its fill or its builder. Of several demands with one name the first one is met. -/

namespace DesignExport

open Compile (Composed Yields)

variable {α β γ : Type}

/-- What a node asks of the constructor of its widget. -/
structure Demand where
  name : String
  type : DartType
  isRequired : Bool
deriving DecidableEq

namespace Demand

/-- Demands are listed once for each name. -/
def enter (demands : List Demand) (demand : Demand) : List Demand :=
  if demand.name ∈ demands.map name then demands else demands ++ [demand]

/-- Demands that are met when others are asked for afterwards. -/
def enterAll (met asked : List Demand) : List Demand :=
  asked.foldl enter met

theorem enterAll_append (met first second : List Demand) :
    enterAll met (first ++ second) = enterAll (enterAll met first) second :=
  List.foldl_append

theorem mem_names_enterAll {wanted : String} {asked : List Demand} : ∀ {met : List Demand},
    wanted ∈ (enterAll met asked).map name ↔ wanted ∈ met.map name ∨ wanted ∈ asked.map name := by
  induction asked with
  | nil => exact fun {met} => (or_iff_left List.not_mem_nil).symm
  | cons demand rest ih =>
      intro met
      change wanted ∈ (enterAll (enter met demand) rest).map name ↔ _
      rw [ih, List.map_cons, List.mem_cons, enter]
      split
      case isTrue known =>
        refine ⟨Or.imp_right Or.inr, ?_⟩
        rintro (early | same | late)
        · exact Or.inl early
        · rw [same]
          exact Or.inl known
        · exact Or.inr late
      case isFalse =>
        rw [List.map_append, List.mem_append, List.map_singleton, List.mem_singleton, or_assoc]

/-- The demand with a name that is met is the first one. -/
theorem find?_enterAll (wanted : String) (asked : List Demand) : ∀ met : List Demand,
    (enterAll met asked).find? (·.name = wanted) =
      (met ++ asked).find? (fun demand => demand.name = wanted) := by
  induction asked with
  | nil => exact fun met => by rw [List.append_nil]; rfl
  | cons demand rest ih =>
      intro met
      change (enterAll (enter met demand) rest).find? _ = _
      rw [ih, enter]
      split
      case isFalse => rw [List.append_assoc, List.singleton_append]
      case isTrue known =>
        rw [List.find?_append, List.find?_append, List.find?_cons]
        by_cases same : demand.name = wanted
        · have early : (met.find? (fun demand => demand.name = wanted)).isSome := by
            obtain ⟨other, member, named⟩ := List.mem_map.mp known
            refine List.find?_isSome.mpr ⟨other, member, ?_⟩
            rw [named]
            exact decide_eq_true same
          obtain ⟨found, first⟩ := Option.isSome_iff_exists.mp early
          rw [first]
          rfl
        · rw [decide_eq_false same]

end Demand

def Parameter.demand (param : Parameter) : Demand :=
  ⟨param.name, param.type, param.isRequired⟩

/-- The demands that the parameters of a widget meet. -/
def WidgetScope.demands (scope : WidgetScope) : List Demand :=
  scope.params.map (fun entry => ⟨entry.1, entry.2.type, entry.2.isRequired⟩)

theorem WidgetScope.names_demands (scope : WidgetScope) :
    scope.demands.map (·.name) = scope.params.keys :=
  List.map_map

/-! ### Demands of steps -/

namespace Compile

/-- A step enters some demands, which are related to its result. -/
def Asks (step : Compile α β) (asks : β → List Demand → Prop) : Prop :=
  ∀ context : Context α, ∃ demands, asks (step.run context).1 demands ∧
    (step.run context).2.scope.demands = Demand.enterAll context.scope.demands demands

namespace Asks

theorem pure {asks : β → List Demand → Prop} {value : β} (nothing : asks value []) :
    Asks (Pure.pure value : Compile α β) asks :=
  fun _ => ⟨[], nothing, rfl⟩

theorem bind {one : β → List Demand → Prop} {all : γ → List Demand → Prop} {step : Compile α β}
    {next : β → Compile α γ} (first : Asks step one)
    (second : ∀ value early, one value early →
      Asks (next value) (fun result late => all result (early ++ late))) :
    Asks (step >>= next) all := by
  intro context
  obtain ⟨early, asked, entered⟩ := first context
  obtain ⟨late, rest, further⟩ := second _ early asked (step.run context).2
  refine ⟨early ++ late, rest, ?_⟩
  rw [run_bind, further, entered, Demand.enterAll_append]

theorem ite {condition : Prop} [Decidable condition] {asks : β → List Demand → Prop}
    {first second : Compile α β} (yes : condition → Asks first asks)
    (no : ¬condition → Asks second asks) :
    Asks (if condition then first else second) asks := by
  split
  case isTrue holds => exact yes holds
  case isFalse fails => exact no fails

/-- A step that is taken or replaced by another one in front of the rest. -/
theorem ite_bind {condition : Prop} [Decidable condition] {one : β → List Demand → Prop}
    {all : γ → List Demand → Prop} {first second : Compile α β} {next : β → Compile α γ}
    (yes : condition → Asks first one) (no : ¬condition → Asks second one)
    (rest : ∀ value early, one value early →
      Asks (next value) (fun result late => all result (early ++ late))) :
    Asks (if condition then first >>= next else second >>= next) all :=
  ite (fun holds => (yes holds).bind rest) fun fails => (no fails).bind rest

end Asks

/-- A step that declares no parameters asks for none. -/
theorem Yields.asks [Scalar α] {step : Compile α β} {property : β → Prop}
    (yields : Yields step property)
    (still : Composed (fun _ => True) (fun _ => True) True False step) :
    Asks step (fun result demands => property result ∧ demands = []) := by
  intro context
  refine ⟨[], ⟨yields context, rfl⟩, ?_⟩
  rw [WidgetScope.demands, still.params_eq not_false]
  rfl

theorem addParam_asks (param : Parameter) :
    Asks (addParam param : Compile α Unit) (fun _ demands => demands = [param.demand]) := by
  intro context
  refine ⟨_, rfl, ?_⟩
  change _ = Demand.enter context.scope.demands param.demand
  have known : param.name ∈ context.scope.params.keys ↔
      param.demand.name ∈ context.scope.demands.map (·.name) := by
    rw [WidgetScope.names_demands]
    exact Iff.rfl
  rw [Demand.enter]
  rcases addParam_run_scope param context with ⟨added, fresh⟩ | ⟨same, existing, found⟩
  · have unknown : param.name ∉ context.scope.params.keys := by
      intro listed
      obtain ⟨other, found⟩ := Table.exists_find?_of_mem_keys listed
      rw [fresh] at found
      cases found
    rw [if_neg (known.not.mp unknown), added]
    exact List.map_append
  · rw [same, if_pos (known.mp (List.mem_map_of_mem (Table.mem_of_find? found)))]

end Compile

open Compile (Asks)

namespace Decorator

/-- What the decorators of a node ask for. -/
def demands (decorators : List (Decorator α)) : List Demand :=
  decorators.filterMap (fun decorator =>
    decorator.callback?.map (fun callback => ⟨callback, .voidCallback, false⟩))

theorem demands_append (first second : List (Decorator α)) :
    demands (first ++ second) = demands first ++ demands second :=
  List.filterMap_append

theorem CallNothing.demands_eq {decorators : List (Decorator α)} (calm : CallNothing decorators) :
    demands decorators = [] :=
  List.filterMap_eq_nil_iff.mpr fun decorator member => by rw [calm decorator member]; rfl

theorem tap?_asks (layer : LayerInfo α) :
    Asks (tap? layer) (fun found asked => asked = demands found.toList) := by
  unfold tap?
  split
  · exact Asks.pure rfl
  · exact (Compile.addParam_asks _).bind fun _ _ same => Asks.pure (same ▸ rfl)

theorem collect_asks [Scalar α] (layer : LayerInfo α) (canBeTapped : Bool) :
    Asks (collect layer canBeTapped) (fun decorators asked => asked = demands decorators) := by
  unfold collect
  refine Asks.ite_bind (fun _ => tap?_asks layer) (fun _ => Asks.pure rfl) fun tap tapped asked => ?_
  subst asked
  refine ((Yields.any _).asks Composed.settings).bind fun settings _ nothing => ?_
  obtain ⟨-, rfl⟩ := nothing
  refine Asks.ite_bind
    (fun _ => (pageLink?_yields layer _ none callNothing_nil).asks (pageLink?_composed layer _ _))
    (fun _ => Asks.pure ⟨callNothing_nil, rfl⟩) fun link _ linked => ?_
  obtain ⟨linked, rfl⟩ := linked
  refine ((blur?_yields layer).asks (blur?_composed layer)).bind fun blur _ blurred => ?_
  obtain ⟨blurred, rfl⟩ := blurred
  refine Asks.pure ?_
  rw [demands_append, demands_append, linked.demands_eq, blurred.demands_eq]
  simp only [List.append_nil]

end Decorator

/-- A parameter for the fill of a layer is an image or a colour. -/
def LayerInfo.fillType (layer : LayerInfo α) : DartType :=
  if layer.hasImageFill then .imageProvider else .color

namespace RoleParams

/-- What a node asks for by its text, its fill and its builder. -/
def demands (layer : LayerInfo α) (params : RoleParams) : List Demand :=
  params.text.toList.map (fun name => ⟨name, .string, false⟩) ++
    params.fill.toList.map (fun name => ⟨name, layer.fillType, false⟩) ++
    params.builder.toList.map (fun name => ⟨name, .widgetBuilder, true⟩)

theorem expose_asks (layer : LayerInfo α) (property : Property) (type : DartType)
    (default : String) :
    Asks (expose layer property type default) (fun found asked =>
      asked = found.toList.map (fun name => ⟨name, type, false⟩)) := by
  unfold expose
  split
  · exact Asks.pure rfl
  · exact (Compile.addParam_asks _).bind fun _ _ same => Asks.pure (same ▸ rfl)

variable [Scalar α]

theorem ofText_asks (layer : LayerInfo α) (block : TextBlock α) :
    Asks (ofText layer block) (fun params asked => asked = params.demands layer) := by
  refine (expose_asks layer _ _ _).bind fun text _ texts => ?_
  subst texts
  have both (fill : Option String) (filled : layer.hasImageFill = false ∨ fill = none) :
      Asks (pure { text := text, fill := fill } : Compile α RoleParams) (fun params late =>
        text.toList.map (fun name => ⟨name, .string, false⟩) ++
          (fill.toList.map (fun name => ⟨name, .color, false⟩) ++ late) = params.demands layer) := by
    refine Asks.pure ?_
    rw [demands, LayerInfo.fillType]
    rcases filled with color | nothing
    · rw [color, List.append_assoc]
      rfl
    · rw [nothing, List.append_assoc]
      rfl
  have colored {color : Color} (first : layer.activeFill?.bind Fill.firstColor? = some color) :
      layer.hasImageFill = false := by
    unfold LayerInfo.hasImageFill
    split
    case h_1 image =>
      rw [image] at first
      cases first
    case h_2 => rfl
  split
  case h_1 color first =>
    refine (expose_asks layer _ _ _).bind fun fill _ fills => ?_
    subst fills
    exact both fill (Or.inl (colored first))
  case h_2 =>
    have nothing : Asks (pure none : Compile α (Option String))
        (fun fill asked => fill = none ∧ asked = []) := Asks.pure ⟨rfl, rfl⟩
    refine nothing.bind fun fill _ none => ?_
    obtain ⟨rfl, rfl⟩ := none
    exact both none (Or.inr rfl)

theorem ofBox_asks (layer : LayerInfo α) :
    Asks (ofBox layer) (fun params asked => asked = params.demands layer) := by
  have nothing : Asks (pure {} : Compile α RoleParams)
      (fun params asked => asked = params.demands layer) := Asks.pure rfl
  have filled (property : Property) (default : String) : Asks (do
      let fill ← expose layer property layer.fillType default
      pure { fill := fill } : Compile α RoleParams)
      (fun params asked => asked = params.demands layer) := by
    refine (expose_asks layer _ _ _).bind fun fill _ fills => Asks.pure ?_
    rw [fills]
    rfl
  unfold ofBox
  split
  case h_1 color fill =>
    have type : layer.fillType = .color := by
      rw [LayerInfo.fillType, LayerInfo.hasImageFill, fill]
      rfl
    exact type ▸ filled .colorParamName _
  case h_2 image fill =>
    have type : layer.fillType = .imageProvider := by
      rw [LayerInfo.fillType, LayerInfo.hasImageFill, fill]
      rfl
    refine Asks.ite (fun _ => ?_) fun _ => nothing
    refine ((Yields.any _).asks (AssetImage.ofFill_composed layer)).bind fun image _ none => ?_
    obtain ⟨-, rfl⟩ := none
    exact type ▸ filled .imageParamName image
  case h_3 => exact nothing

theorem register_asks (layer : LayerInfo α) (kind : NodeKind α) (mode : ExportMode) :
    Asks (register layer kind mode) (fun params asked => asked = params.demands layer) := by
  refine Asks.ite (fun _ => ?_) fun _ => ?_
  · refine ((Yields.any _).asks Composed.settings).bind fun settings _ none => ?_
    obtain ⟨-, rfl⟩ := none
    exact (Compile.addParam_asks _).bind fun _ _ same => Asks.pure (same ▸ rfl)
  · split
    · exact ofText_asks layer _
    · exact ofBox_asks layer
    · exact Asks.pure rfl

end RoleParams

namespace Node

mutual

/-- What a tree asks for, in the order in which it is built. -/
def demands : Node α → List Demand
  | ⟨info, children⟩ =>
      Decorator.demands info.decorators ++ demandsAll children ++ info.params.demands info.layer

def demandsAll : List (Node α) → List Demand
  | [] => []
  | node :: rest => demands node ++ demandsAll rest

end

theorem demandsAll_append (first second : List (Node α)) :
    demandsAll (first ++ second) = demandsAll first ++ demandsAll second := by
  induction first with
  | nil => rfl
  | cons node rest ih => rw [List.cons_append, demandsAll, demandsAll, ih, List.append_assoc]

variable [Scalar α]

mutual

theorem build_asks : ∀ layer : Layer α,
    Asks (build layer) (fun found asked => asked = demandsAll found.toList)
  | ⟨layer, children⟩ => by
      rw [build]
      refine Asks.ite (fun _ => Asks.pure rfl) fun _ => ?_
      refine ((Yields.any _).asks (NodeKind.ofLayer?_composed layer)).bind fun found _ none => ?_
      obtain ⟨-, rfl⟩ := none
      cases found with
      | none => exact Asks.pure rfl
      | some kind =>
          refine ((Yields.any _).asks (ExportMode.ofLayer_composed layer)).bind fun mode _ none => ?_
          obtain ⟨-, rfl⟩ := none
          refine ((Yields.any _).asks (Layout.ofLayer_composed layer)).bind fun layout _ none => ?_
          obtain ⟨-, rfl⟩ := none
          refine (Decorator.collect_asks layer _).bind fun decorators _ own => ?_
          subst own
          refine Asks.ite_bind (fun _ => buildAll_asks children) (fun _ => Asks.pure rfl)
            fun nodes _ below => ?_
          subst below
          refine (RoleParams.register_asks layer kind mode).bind fun params _ own => Asks.pure ?_
          subst own
          change _ = (_ ++ demandsAll nodes ++ params.demands layer) ++ []
          simp only [List.nil_append, List.append_nil, List.append_assoc]

theorem buildAll_asks : ∀ layers : List (Layer α),
    Asks (buildAll layers) (fun nodes asked => asked = demandsAll nodes)
  | [] => Asks.pure rfl
  | layer :: rest => by
      rw [buildAll]
      refine (build_asks layer).bind fun found _ first => ?_
      subst first
      refine (buildAll_asks rest).bind fun nodes _ others => Asks.pure ?_
      rw [others, demandsAll_append, List.append_nil]

end

/-- The root of a widget asks for what the nodes below it ask for. -/
theorem buildRoot_asks (layer : Layer α) :
    Asks (buildRoot layer) (fun root asked => asked = root.demands) := by
  refine (buildAll_asks layer.children).bind fun nodes _ below => Asks.pure ?_
  subst below
  change _ = [] ++ demandsAll nodes ++ []
  rw [List.append_nil, List.append_nil, List.nil_append]

end Node

end DesignExport
