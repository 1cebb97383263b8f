import DesignExport.Proofs.Tree.Asked
import DesignExport.Proofs.Tree.Origins
set_option autoImplicit false

/-! The nodes that ask for the parameters of a widget. Each parameter is for something that
the node has when it is built: a tap, the text and the colour of a label, the fill of a box,
or the widget in place of the node. -/

namespace DesignExport

open Compile (Yields)

variable {α : Type}

/-- The fill of a layer is a colour or an image. -/
def LayerInfo.IsPainted (layer : LayerInfo α) : Prop :=
  (∃ color, layer.activeFill? = some (.color color)) ∨
    ∃ image, layer.activeFill? = some (.image image)

/-- A node asks for a parameter. -/
inductive NodeInfo.Asks (node : NodeInfo α) (name : String) : Prop where
  | tap (decorated : .tap name ∈ node.decorators)
  | text (named : node.params.text = some name)
  | fill (named : node.params.fill = some name)
  | builder (named : node.params.builder = some name)

/-- The parameters for the parts of a node suit its kind and its mode. -/
structure RoleParams.Suit (layer : LayerInfo α) (kind : NodeKind α) (mode : ExportMode)
    (params : RoleParams) : Prop where
  text : ∀ name ∈ params.text, mode ≠ .builder ∧ kind = .text
  fill : ∀ name ∈ params.fill, mode ≠ .builder ∧ (kind = .text ∨ kind = .box ∧ layer.IsPainted)
  builder : ∀ name ∈ params.builder, mode = .builder

/-- All parameters of a node suit it. Only nodes that are not replaced are tapped. -/
structure NodeInfo.IsParametrized (node : NodeInfo α) : Prop where
  tap : ∀ name, .tap name ∈ node.decorators → node.mode = .inline ∨ node.mode = .method
  params : node.params.Suit node.layer node.kind node.mode

/-! ### Demands and the nodes they come from -/

theorem Decorator.mem_names_demands {decorators : List (Decorator α)} {name : String} :
    name ∈ (demands decorators).map (·.name) ↔ .tap name ∈ decorators := by
  rw [demands, List.map_filterMap, List.mem_filterMap]
  constructor
  · rintro ⟨decorator, member, named⟩
    cases decorator with
    | tap callback =>
        cases named
        exact member
    | pageLink | blur => cases named
  · exact fun member => ⟨_, member, rfl⟩

theorem RoleParams.mem_names_demands {layer : LayerInfo α} {params : RoleParams} {name : String} :
    name ∈ (demands layer params).map (·.name) ↔
      params.text = some name ∨ params.fill = some name ∨ params.builder = some name := by
  have names (role : Option String) (type : DartType) (isRequired : Bool) :
      (role.toList.map (fun name => (⟨name, type, isRequired⟩ : Demand))).map (·.name) =
        role.toList := by
    rw [List.map_map]
    exact List.map_id _
  rw [demands, List.map_append, List.map_append, names, names, names, List.mem_append,
    List.mem_append, Option.mem_toList, Option.mem_toList, Option.mem_toList, or_assoc]

/-- What a node asks for itself. -/
def NodeInfo.demands (node : NodeInfo α) : List Demand :=
  Decorator.demands node.decorators ++ node.params.demands node.layer

theorem NodeInfo.mem_names_demands {node : NodeInfo α} {name : String} :
    name ∈ node.demands.map (·.name) ↔ node.Asks name := by
  rw [demands, List.map_append, List.mem_append, Decorator.mem_names_demands,
    RoleParams.mem_names_demands]
  constructor
  · rintro (decorated | text | fill | builder)
    · exact Asks.tap decorated
    · exact Asks.text text
    · exact Asks.fill fill
    · exact Asks.builder builder
  · rintro (decorated | text | fill | builder)
    · exact Or.inl decorated
    · exact Or.inr (Or.inl text)
    · exact Or.inr (Or.inr (Or.inl fill))
    · exact Or.inr (Or.inr (Or.inr builder))

namespace Node

mutual

/-- The demands of a tree are those of its parts. -/
theorem mem_demands {demand : Demand} : ∀ node : Node α,
    demand ∈ node.demands ↔ ∃ part ∈ node.parts, demand ∈ part.toNodeInfo.demands
  | ⟨info, children⟩ => by
      rw [demands, parts, List.mem_append, List.mem_append, mem_demandsAll children]
      constructor
      · rintro ((tapped | ⟨part, inside, asks⟩) | named)
        · exact ⟨_, List.mem_cons_self, List.mem_append_left _ tapped⟩
        · exact ⟨part, List.mem_cons_of_mem _ inside, asks⟩
        · exact ⟨_, List.mem_cons_self, List.mem_append_right _ named⟩
      · rintro ⟨part, inside, asks⟩
        rcases List.mem_cons.mp inside with same | below
        · rw [same] at asks
          rcases List.mem_append.mp asks with tapped | named
          · exact Or.inl (Or.inl tapped)
          · exact Or.inr named
        · exact Or.inl (Or.inr ⟨part, below, asks⟩)

theorem mem_demandsAll {demand : Demand} : ∀ nodes : List (Node α),
    demand ∈ demandsAll nodes ↔ ∃ part ∈ partsAll nodes, demand ∈ part.toNodeInfo.demands
  | [] => by
      refine ⟨fun absent => absurd absent List.not_mem_nil, ?_⟩
      rintro ⟨_, absent, -⟩
      exact absurd absent List.not_mem_nil
  | node :: rest => by
      rw [demandsAll, partsAll, List.mem_append, mem_demands node, mem_demandsAll rest]
      simp only [List.mem_append, or_and_right, exists_or]

end

theorem mem_names_demands {name : String} (node : Node α) :
    name ∈ node.demands.map (·.name) ↔ ∃ part ∈ node.parts, part.Asks name := by
  rw [List.mem_map]
  constructor
  · rintro ⟨demand, member, named⟩
    obtain ⟨part, inside, asked⟩ := (mem_demands node).mp member
    exact ⟨part, inside, NodeInfo.mem_names_demands.mp (List.mem_map.mpr ⟨demand, asked, named⟩)⟩
  · rintro ⟨part, inside, asks⟩
    obtain ⟨demand, asked, named⟩ := List.mem_map.mp (NodeInfo.mem_names_demands.mpr asks)
    exact ⟨demand, (mem_demands node).mpr ⟨part, inside, asked⟩, named⟩

end Node

/-! ### Parameters that are built -/

/-- Labels are made of texts, and of nothing else. -/
theorem NodeKind.Becomes.text_of_isText {start : Context α} {layer : LayerInfo α} {kind : NodeKind α}
    (becomes : kind.Becomes start layer) {block : TextBlock α} (isText : layer.kind = .text block) :
    kind = .text := by
  cases becomes with
  | text => rfl
  | shape outlined =>
      rw [isText] at outlined
      cases outlined
  | plain other | scroll other | rectangle other | ellipse other | instanceOf other | unnamed other =>
      rw [isText] at other
      cases other

namespace RoleParams

variable {layer : LayerInfo α} {kind : NodeKind α} {mode : ExportMode}

theorem suit_empty : Suit layer kind mode {} :=
  ⟨nofun, nofun, nofun⟩

variable [Scalar α]

theorem ofText_yields_suit (notBuilder : mode ≠ .builder) (label : kind = .text)
    (block : TextBlock α) : Yields (ofText layer block) (Suit layer kind mode) := by
  have suits (text fill : Option String) : Suit layer kind mode { text := text, fill := fill } :=
    ⟨fun _ _ => ⟨notBuilder, label⟩, fun _ _ => ⟨notBuilder, Or.inl label⟩, nofun⟩
  refine Yields.bind_any fun text => ?_
  split
  · exact Yields.bind_any fun fill => Yields.pure (suits text fill)
  · exact Yields.bind_any fun fill => Yields.pure (suits text fill)

theorem ofBox_yields_suit (notBuilder : mode ≠ .builder) (box : kind = .box) :
    Yields (ofBox layer) (Suit layer kind mode) := by
  have suits (painted : layer.IsPainted) (fill : Option String) :
      Suit layer kind mode { fill := fill } :=
    ⟨nofun, fun _ _ => ⟨notBuilder, Or.inr ⟨box, painted⟩⟩, nofun⟩
  unfold ofBox
  split
  case h_1 color filled =>
    exact Yields.bind_any fun fill => Yields.pure (suits (Or.inl ⟨color, filled⟩) fill)
  case h_2 image filled =>
    refine Yields.ite (fun _ => ?_) fun _ => Yields.pure suit_empty
    refine Yields.bind_any fun _ => Yields.bind_any fun fill => ?_
    exact Yields.pure (suits (Or.inr ⟨image, filled⟩) fill)
  case h_3 => exact Yields.pure suit_empty

theorem register_yields_suit (label : ∀ block, layer.kind = .text block → kind = .text) :
    Yields (register layer kind mode) (Suit layer kind mode) := by
  refine Yields.ite (fun isBuilder => ?_) fun notBuilder => ?_
  · refine Yields.bind_any fun settings => Yields.bind_any fun _ => Yields.pure ?_
    exact ⟨nofun, nofun, fun _ _ => isBuilder⟩
  · split
    case h_1 block known => exact ofText_yields_suit notBuilder (label block known) block
    case h_2 => exact ofBox_yields_suit notBuilder rfl
    case h_3 => exact Yields.pure suit_empty

end RoleParams

/-- What is made of a layer has parameters that suit it. -/
theorem NodeInfo.IsMadeOf.isParametrized [Scalar α] {start : Context α} {layer : LayerInfo α}
    {node : NodeInfo α} (made : node.IsMadeOf start layer) : node.IsParametrized := by
  constructor
  · intro name tapped
    cases made.decorates tapped with
    | tap stored tappable =>
        rw [Node.canBeTapped, Bool.or_eq_true, decide_eq_true_iff, decide_eq_true_iff] at tappable
        exact tappable
  · have label (block : TextBlock α) (isText : layer.kind = .text block) : node.kind = .text :=
      made.becomes.text_of_isText isText
    rw [made.layer_eq, made.params_eq]
    exact RoleParams.register_yields_suit label start

theorem Node.buildRoot_yields_isParametrized [Scalar α] (layer : Layer α) :
    Yields (buildRoot layer) (fun root => root.Throughout NodeInfo.IsParametrized) := by
  intro start
  refine buildRoot_throughout (fun _ _ _ made => made.isParametrized) ?_
  exact ⟨fun _ absent => absurd absent List.not_mem_nil, RoleParams.suit_empty⟩

end DesignExport
