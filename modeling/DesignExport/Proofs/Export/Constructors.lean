import DesignExport.Number.Exact
import DesignExport.Proofs.Export.Bodies
import DesignExport.Proofs.Export.FileNames
import DesignExport.Proofs.Expression.Foreign
import DesignExport.Proofs.Tree.Origins
import DesignExport.Proofs.Tree.Parametrized
set_option autoImplicit false

/-! Calls of widgets by other widgets. An instance of a component and a link to a page get the
class that they call from the names of widgets, so they never call a class that none of them
has. Every call is without arguments, and the constructor that is called takes it if nothing
in the tree of that widget is left to a builder. -/

namespace DesignExport

section Linking

variable {α : Type}

/-- A class is the name of some widget. -/
def Context.Names (context : Context α) (className : String) : Prop :=
  ∃ guid, context.widgetName? guid = some className

/-- All classes that a node calls are names of widgets. -/
structure NodeInfo.CallsNames (base : Context α) (node : NodeInfo α) : Prop where
  instanceOf : ∀ className, node.kind = .group (.instanceOf className) → base.Names className
  linked : ∀ className transition, .pageLink className transition ∈ node.decorators →
    base.Names className

theorem NodeInfo.callsNames_keptByShapes (base : Context α) :
    Node.KeptByShapes (NodeInfo.CallsNames base) :=
  fun _ _ _ calls => ⟨nofun, calls.linked⟩

section Building

variable [Scalar α]

/-- What is made of a layer calls classes that are names of widgets. -/
theorem NodeInfo.IsMadeOf.callsNames {base : Context α} {layer : LayerInfo α} {node : NodeInfo α}
    (made : node.IsMadeOf base layer) : node.CallsNames base := by
  constructor
  · intro className isInstance
    have becomes := made.becomes
    rw [isInstance] at becomes
    cases becomes with
    | instanceOf isComponent named => exact ⟨_, named⟩
  · intro className transition member
    cases made.decorates member with
    | pageLink named => exact ⟨_, named⟩

theorem Node.buildRoot_callsNames (base : Context α) (layer : Layer α) :
    ((buildRoot layer).run base).1.Throughout (NodeInfo.CallsNames base) :=
  buildRoot_throughout (fun _ _ _ made => made.callsNames)
    ⟨nofun, fun _ _ absent => absurd absent List.not_mem_nil⟩

end Building

end Linking

/-! ### Constructors

A constructor takes a call without arguments if nothing in the tree of its widget is left to a
builder: all other parameters have a default or may be null. -/

variable {α : Type}

/-- A call of the constructor of a widget with named arguments. -/
def widgetCall (className : String) (arguments : List (String × String)) : String :=
  let given := arguments.map fun (name, value) => name ++ ": " ++ value ++ ", "
  className ++ "(" ++ String.join given ++ ")"

theorem widgetCall_nil (className : String) : widgetCall className [] = className ++ "()" := by
  rw [widgetCall, String.append_assoc, String.append_assoc]
  rfl

/-- A constructor with some parameters takes a call: nothing that it requires is left out. -/
def SourceFile.Accepts (params : List Parameter) (arguments : List (String × String)) : Prop :=
  ∀ param ∈ params, param.isRequired = true → param.name ∈ arguments.map Prod.fst

instance (params : List Parameter) (arguments : List (String × String)) :
    Decidable (SourceFile.Accepts params arguments) :=
  inferInstanceAs (Decidable (∀ param ∈ params, param.isRequired = true → _))

theorem SourceFile.has_constructor {className body : String} {scope : WidgetScope}
    {nullSafe : Bool} :
    (ofWidget className body scope nullSafe).Has
      ("  " ++ constructor className (scope.params.map Prod.snd) nullSafe) := by
  apply has_of_mem className
  simp only [List.mem_append]
  exact Or.inl (Or.inl (Or.inl (Or.inl (Or.inr List.mem_cons_self))))

/-! ### Required parameters -/

namespace Demand

variable {demands : List Demand} {wanted : String} {demand : Demand}

theorem name_of_find? (found : demands.find? (·.name = wanted) = some demand) :
    demand.name = wanted := by
  have holds := List.find?_some found
  exact of_decide_eq_true holds

/-- Demands with names of their own are found by them. -/
theorem find?_eq_some_iff (distinct : (demands.map name).Nodup) :
    demands.find? (·.name = wanted) = some demand ↔ demand ∈ demands ∧ demand.name = wanted := by
  constructor
  · exact fun found => ⟨List.mem_of_find?_eq_some found, name_of_find? found⟩
  · rintro ⟨member, named⟩
    have present : (demands.find? (·.name = wanted)).isSome :=
      List.find?_isSome.mpr ⟨demand, member, decide_eq_true named⟩
    obtain ⟨other, found⟩ := Option.isSome_iff_exists.mp present
    have same : other = demand := List.inj_on_of_nodup_map distinct
      (List.mem_of_find?_eq_some found) member ((name_of_find? found).trans named.symm)
    rw [found, same]

end Demand

/-- A tree requires a parameter: the first of its parts that asks for one of that name does
so without a value to fall back on. -/
def Node.Requires (root : Node α) (name : String) : Prop :=
  ∃ demand, root.demands.find? (·.name = name) = some demand ∧ demand.isRequired = true

/-- Builders are required, and nothing else is. -/
theorem NodeInfo.builder_of_mem_demands {node : NodeInfo α} {demand : Demand}
    (asked : demand ∈ node.demands) (isRequired : demand.isRequired = true) :
    node.params.builder = some demand.name := by
  rcases List.mem_append.mp asked with tapped | named
  · obtain ⟨decorator, -, own⟩ := List.mem_filterMap.mp tapped
    obtain ⟨callback, -, same⟩ := Option.map_eq_some_iff.mp own
    rw [← same] at isRequired
    cases isRequired
  · rw [RoleParams.demands, List.mem_append, List.mem_append, List.mem_map, List.mem_map,
      List.mem_map] at named
    rcases named with (⟨name, -, same⟩ | ⟨name, -, same⟩) | ⟨name, member, same⟩
    · rw [← same] at isRequired
      cases isRequired
    · rw [← same] at isRequired
      cases isRequired
    · rw [← same]
      exact Option.mem_toList.mp member

theorem Node.Requires.exists_builder {root : Node α} {name : String} (requires : root.Requires name)
    (suits : root.Throughout NodeInfo.IsParametrized) :
    ∃ part ∈ root.parts, part.mode = .builder ∧ part.params.builder = some name := by
  obtain ⟨demand, first, isRequired⟩ := requires
  obtain ⟨part, inside, asked⟩ := (mem_demands root).mp (List.mem_of_find?_eq_some first)
  have named : demand.name = name := Demand.name_of_find? first
  have builder := NodeInfo.builder_of_mem_demands asked isRequired
  rw [named] at builder
  exact ⟨part, inside, (suits part inside).params.builder name builder, builder⟩

/-- Of the demands of one name the first one is met. -/
theorem WidgetScope.Meets.mem_demands_iff {scope : WidgetScope} {demands : List Demand}
    (meets : scope.Meets demands) {demand : Demand} : demand ∈ scope.demands ↔
      demands.find? (fun other => other.name = demand.name) = some demand := by
  have names : (scope.demands.map (·.name)).Nodup := by
    rw [scope.names_demands]
    exact meets.distinct
  have first := Demand.find?_enterAll demand.name demands []
  rw [List.nil_append, ← meets.demands_eq] at first
  rw [← first, Demand.find?_eq_some_iff names]
  exact (and_iff_left rfl).symm

/-- The constructor of a widget takes the calls that give what its tree requires. -/
theorem WidgetScope.Meets.accepts_iff {scope : WidgetScope} {root : Node α}
    (meets : scope.Meets root.demands) (arguments : List (String × String)) :
    SourceFile.Accepts (scope.params.map Prod.snd) arguments ↔
      ∀ name, root.Requires name → name ∈ arguments.map Prod.fst := by
  constructor
  · rintro accepts name ⟨demand, first, isRequired⟩
    have same : demand.name = name := Demand.name_of_find? first
    rw [← same] at first
    obtain ⟨entry, known, own⟩ := List.mem_map.mp (meets.mem_demands_iff.mpr first)
    rw [← own] at isRequired same
    have given := accepts entry.2 (List.mem_map_of_mem known) isRequired
    rw [meets.named entry known] at given
    exact same ▸ given
  · intro supplied param member isRequired
    obtain ⟨entry, known, own⟩ := List.mem_map.mp member
    rw [← own] at isRequired ⊢
    have asked : ⟨entry.1, entry.2.type, entry.2.isRequired⟩ ∈ scope.demands :=
      List.mem_map.mpr ⟨entry, known, rfl⟩
    rw [meets.named entry known]
    exact supplied entry.1 ⟨_, meets.mem_demands_iff.mp asked, isRequired⟩

variable [Scalar α]

/-! ### Calls -/

theorem widgetTree_callsNames (layer : Layer α) (start : Context α) :
    ((widgetTree layer).run start).1.Throughout (NodeInfo.CallsNames start) := by
  rw [widgetTree_run]
  exact Node.throughout_combineShapes (NodeInfo.callsNames_keptByShapes start) _ _
    (Node.buildRoot_callsNames start layer)

omit [Scalar α] in
/-- Widgets are called without arguments, and by names of widgets. -/
theorem Node.Uses.of_widget {part : Node α} {className piece : String}
    (uses : part.Uses (.widget className) piece) {base : Context α}
    (calls : part.CallsNames base) : piece = widgetCall className [] ∧ base.Names className := by
  rw [widgetCall_nil]
  cases uses with
  | linked isDecorated decorated present => exact ⟨rfl, calls.linked _ _ decorated⟩
  | instanceOf isDrawn isInstance unmarked => exact ⟨rfl, calls.instanceOf _ isInstance⟩

namespace Document

variable (document : Document α) (settings : Settings)

omit [Scalar α] in
/-- The names of widgets in an export are the classes that they are exported as. -/
theorem exists_exportedClass_eq {className : String}
    (names : (document.exportIdle settings).Names className) :
    ∃ callee ∈ (Index.ofDocument document).widgets,
      document.exportedClass settings callee.toLayerInfo = className := by
  obtain ⟨guid, named⟩ := names
  rcases Context.mem_of_mem_nameWidgets settings _ _ _ (Table.mem_of_find? named) with
    absent | ⟨callee, among, same⟩
  · exact absurd absent List.not_mem_nil
  · refine ⟨callee, among, ?_⟩
    have own : guid = callee.guid := congrArg Prod.fst same
    change ((document.exportIdle settings).widgetName? callee.guid).getD _ = className
    rw [← own, named]
    rfl

/-- Widgets are called without arguments, and every class that is called is that of a widget.
The constructor in the file of a widget takes a call if it gives all that the tree of the
widget requires, which is nothing but builders. -/
theorem calls_accepted :
    let start := document.exportIdle settings
    (∀ (caller : Layer α) (part : Node α) (className piece : String),
      let code := ((widgetCode caller (document.exportedClass settings caller.toLayerInfo)).run start).1
      ((widgetTree caller).run start).1.Reaches part → part.Uses (.widget className) piece →
        piece = widgetCall className [] ∧
          (ShowsInBody piece code.1 code.2 ∨
            ((compileWidget caller).run start).2.WarnsOfMethod) ∧
          ∃ callee ∈ (Index.ofDocument document).widgets,
            document.exportedClass settings callee.toLayerInfo = className) ∧
      ∀ callee : Layer α,
        let className := document.exportedClass settings callee.toLayerInfo
        let root := ((Node.buildRoot callee).run start).1
        let code := ((widgetCode callee className).run start).1
        let file := SourceFile.ofWidget className code.1 code.2 settings.nullSafe
        let params := code.2.params.map Prod.snd
        ((compileWidget callee).run start).1 = .ok file ∧
          file.Has ("  " ++ SourceFile.constructor className params settings.nullSafe) ∧
          (∀ arguments, SourceFile.Accepts params arguments ↔
            ∀ name, root.Requires name → name ∈ arguments.map Prod.fst) ∧
          ∀ name, root.Requires name →
            ∃ part ∈ root.parts, part.mode = .builder ∧ part.params.builder = some name := by
  intro start
  constructor
  · intro caller part className piece code reached uses
    have shown := reached.showsInCode fun _ label lasts files => uses.tells lasts label files
    obtain ⟨call, names⟩ :=
      uses.of_widget (widgetTree_callsNames caller start part reached.mem_parts)
    exact ⟨call, shown, exists_exportedClass_eq document settings names⟩
  · intro callee className root code file params
    refine ⟨compileWidget_run_ok callee start, SourceFile.has_constructor, ?_, ?_⟩
    · exact (widgetCode_meets callee start).accepts_iff
    · exact fun name requires =>
        requires.exists_builder (Node.buildRoot_yields_isParametrized callee start)

/-- A button whose label is left to a builder. -/
def slotButton : Layer Rat :=
  let label : LayerInfo Rat :=
    { LayerInfo.usual "label" "Label" .group with
      hasDefaultName := true
      properties := [("exportMode", .text "builder")] }
  ⟨{ LayerInfo.usual "button" "Button" (.component true "button") with hasDefaultName := true },
    [⟨label, []⟩]⟩

/-- A page with an instance of the button. -/
def slotButtonPage : Layer Rat :=
  let placed : LayerInfo Rat :=
    { LayerInfo.usual "placed" "Placed" (.component false "button") with hasDefaultName := true }
  ⟨{ LayerInfo.usual "home" "Home" .artboard with hasDefaultName := true }, [⟨placed, []⟩]⟩

/-- The page calls the button without the builder that the button requires, and nothing is
said about that. -/
theorem calls_slotButtonPage :
    let document : Document Rat := ⟨[], [slotButtonPage, slotButton], ⟨[], []⟩⟩
    let start := document.exportIdle {}
    let page := ((widgetCode slotButtonPage "Home").run start).1
    let button := ((widgetCode slotButton "Button").run start).1
    ((compileWidget slotButtonPage).run start).2.log = [] ∧
      ((compileWidget slotButton).run start).2.log = [] ∧
      (widgetCall (document.exportedClass {} slotButton.toLayerInfo) []).toList <:+:
        page.1.toList ∧
      ¬ SourceFile.Accepts (button.2.params.map Prod.snd) [] := by
  decide +kernel

end Document

end DesignExport
