import DesignExport.Compile.Context
set_option autoImplicit false

/-! Steps of a compile. Of some steps the result has a property in every context; of others it
has one in the contexts with an invariant, which the steps keep. -/

namespace DesignExport

section Yielding

theorem forall_mem_none {β : Type} {property : β → Prop} :
    ∀ value ∈ (none : Option β), property value :=
  fun value absent => absurd absent (Option.not_mem_none value)

namespace Compile

variable {α β γ : Type}

/-- A step after another goes on from what the other leaves. -/
theorem run_bind (step : Compile α β) (next : β → Compile α γ) (context : Context α) :
    (step >>= next).run context = (next (step.run context).1).run (step.run context).2 :=
  rfl

theorem run_get_bind (next : Context α → Compile α β) (context : Context α) :
    (get >>= next).run context = (next context).run context :=
  rfl

/-- In every context the result of a step has a property. -/
def Yields (step : Compile α β) (property : β → Prop) : Prop :=
  ∀ context : Context α, property (step.run context).1

namespace Yields

theorem pure {property : β → Prop} {value : β} (holds : property value) :
    Yields (Pure.pure value : Compile α β) property :=
  fun _ => holds

theorem any (step : Compile α β) : Yields step (fun _ => True) :=
  fun _ => trivial

theorem bind {property : β → Prop} {conclusion : γ → Prop} {step : Compile α β}
    {next : β → Compile α γ} (first : Yields step property)
    (second : ∀ value, property value → Yields (next value) conclusion) :
    Yields (step >>= next) conclusion := by
  intro context
  exact second (step.run context).1 (first context) (step.run context).2

/-- Nothing is known of the result of the first step. -/
theorem bind_any {conclusion : γ → Prop} {step : Compile α β} {next : β → Compile α γ}
    (second : ∀ value, Yields (next value) conclusion) : Yields (step >>= next) conclusion :=
  bind (any step) (fun value _ => second value)

theorem ite {condition : Prop} [Decidable condition] {property : β → Prop}
    {first second : Compile α β} (yes : condition → Yields first property)
    (no : ¬condition → Yields second property) :
    Yields (if condition then first else second) property := by
  split
  case isTrue holds => exact yes holds
  case isFalse fails => exact no fails

/-- A step that is taken or replaced by another one in front of the rest. -/
theorem ite_bind {condition : Prop} [Decidable condition] {property : β → Prop}
    {conclusion : γ → Prop} {first second : Compile α β} {next : β → Compile α γ}
    (yes : condition → Yields first property) (no : ¬condition → Yields second property)
    (rest : ∀ value, property value → Yields (next value) conclusion) :
    Yields (if condition then first >>= next else second >>= next) conclusion :=
  ite (fun holds => bind (yes holds) rest) fun fails => bind (no fails) rest

/-- A step that is taken or left out in front of the rest. -/
theorem ite_skip {condition : Prop} [Decidable condition] {conclusion : γ → Prop}
    {first : Compile α Unit} {next : Unit → Compile α γ} (rest : Yields (next ()) conclusion) :
    Yields (if condition then first >>= next else next ()) conclusion :=
  ite (fun _ => bind_any fun _ => rest) fun _ => rest

end Yields

end Compile

end Yielding

/-! ### Invariants

A step is shown to keep the invariant and to give a result with a property, both for contexts
with the invariant. -/

/-- With one more build method. -/
def Context.withMethod {α : Type} (context : Context α) (name body : String) : Context α :=
  { context with scope := { context.scope with methods := context.scope.methods.insert name body } }

namespace Compile

variable {α β γ : Type}

/-- From a context with the invariant a step gives a result with a property and leaves
a context with the invariant. -/
def Keeps (kept : Context α → Prop) (step : Compile α β) (property : β → Prop) : Prop :=
  ∀ context : Context α, kept context →
    property (step.run context).1 ∧ kept (step.run context).2

namespace Keeps

variable {kept : Context α → Prop}

theorem pure {property : β → Prop} {value : β} (holds : property value) :
    Keeps kept (Pure.pure value) property :=
  fun _ invariant => ⟨holds, invariant⟩

theorem bind {property : β → Prop} {conclusion : γ → Prop} {step : Compile α β}
    {next : β → Compile α γ} (first : Keeps kept step property)
    (second : ∀ value, property value → Keeps kept (next value) conclusion) :
    Keeps kept (step >>= next) conclusion := by
  intro context invariant
  obtain ⟨found, later⟩ := first context invariant
  exact second (step.run context).1 found (step.run context).2 later

theorem mono {property weaker : β → Prop} {step : Compile α β} (strong : Keeps kept step property)
    (weaken : ∀ value, property value → weaker value) : Keeps kept step weaker :=
  fun context invariant =>
    ⟨weaken _ (strong context invariant).1, (strong context invariant).2⟩

/-- A step that looks at the context may rely on the invariant. -/
theorem get {conclusion : γ → Prop} {next : Context α → Compile α γ}
    (second : ∀ context, kept context → Keeps kept (next context) conclusion) :
    Keeps kept (MonadState.get >>= next) conclusion :=
  fun context invariant => second context invariant context invariant

theorem ite {condition : Prop} [Decidable condition] {property : β → Prop}
    {first second : Compile α β} (yes : condition → Keeps kept first property)
    (no : ¬condition → Keeps kept second property) :
    Keeps kept (if condition then first else second) property := by
  split
  case isTrue holds => exact yes holds
  case isFalse fails => exact no fails

/-- A step that is taken or replaced by another one in front of the rest. -/
theorem ite_bind {condition : Prop} [Decidable condition] {property : β → Prop}
    {conclusion : γ → Prop} {first second : Compile α β} {next : β → Compile α γ}
    (yes : condition → Keeps kept first property) (no : ¬condition → Keeps kept second property)
    (rest : ∀ value, property value → Keeps kept (next value) conclusion) :
    Keeps kept (if condition then first >>= next else second >>= next) conclusion :=
  ite (fun holds => (yes holds).bind rest) fun fails => (no fails).bind rest

/-- A step that is taken or left out in front of the rest. -/
theorem ite_skip {condition : Prop} [Decidable condition] {property : Unit → Prop}
    {conclusion : γ → Prop} {first : Compile α Unit} {next : Unit → Compile α γ}
    (yes : Keeps kept first property) (rest : Keeps kept (next ()) conclusion) :
    Keeps kept (if condition then first >>= next else next ()) conclusion :=
  ite (fun _ => yes.bind fun _ _ => rest) fun _ => rest

end Keeps

/-! ### Invariants that recording keeps -/

/-- Two contexts that differ at most in their records and in the tables of the widget
other than its build methods. -/
structure SameGround (first second : Context α) : Prop where
  index_eq : second.index = first.index
  settings_eq : second.settings = first.settings
  target_eq : second.target = first.target
  widgetNames_eq : second.widgetNames = first.widgetNames
  folder_eq : second.raster.folder = first.raster.folder
  methods_eq : second.scope.methods = first.scope.methods

/-- An invariant that depends on none of these. -/
def IsSteady (kept : Context α → Prop) : Prop :=
  ∀ first second : Context α, SameGround first second → kept first → kept second

theorem SameGround.refl (context : Context α) : SameGround context context :=
  ⟨rfl, rfl, rfl, rfl, rfl, rfl⟩

theorem SameGround.trans {first second third : Context α} (one : SameGround first second)
    (other : SameGround second third) : SameGround first third where
  index_eq := other.index_eq.trans one.index_eq
  settings_eq := other.settings_eq.trans one.settings_eq
  target_eq := other.target_eq.trans one.target_eq
  widgetNames_eq := other.widgetNames_eq.trans one.widgetNames_eq
  folder_eq := other.folder_eq.trans one.folder_eq
  methods_eq := other.methods_eq.trans one.methods_eq

theorem isSteady_sameGround (start : Context α) : IsSteady (SameGround start) :=
  fun _ _ ground known => known.trans ground

/-- A step that keeps the ground that it starts from keeps every such invariant, and what its
result has to do with that ground may be used. -/
theorem IsSteady.keeps {kept : Context α → Prop} (steady : IsSteady kept) {step : Compile α β}
    {property : Context α → β → Prop} {conclusion : β → Prop}
    (grounded : ∀ start, Keeps (SameGround start) step (property start))
    (conclude : ∀ start, kept start → ∀ value, property start value → conclusion value) :
    Keeps kept step conclusion := by
  intro start known
  obtain ⟨found, ground⟩ := grounded start start (SameGround.refl start)
  exact ⟨conclude start known _ found, steady start _ ground known⟩

section Primitives

variable {kept : Context α → Prop} (steady : IsSteady kept)

include steady

theorem keeps_of_sameGround {step : Compile α β}
    (ground : ∀ context, SameGround context (step.run context).2) :
    Keeps kept step (fun _ => True) :=
  fun context invariant => ⟨trivial, steady context _ (ground context) invariant⟩

theorem note_keeps (entries : Log) : Keeps kept (note entries) (fun _ => True) :=
  keeps_of_sameGround steady fun _ => ⟨rfl, rfl, rfl, rfl, rfl, rfl⟩

theorem noting_keeps (result : β × Log) : Keeps kept (noting result) (· = result.1) :=
  (note_keeps steady _).bind fun _ _ => Keeps.pure rfl

theorem warn_keeps (message : String) (layer : LayerInfo α) :
    Keeps kept (warn message layer) (fun _ => True) :=
  note_keeps steady _

theorem error_keeps (message : String) (layer : LayerInfo α) :
    Keeps kept (error message layer) (fun _ => True) :=
  note_keeps steady _

theorem warnAll_keeps (message : String) : Keeps kept (warnAll message) (fun _ => True) :=
  note_keeps steady _

theorem changeScope_keeps {edit : WidgetScope → WidgetScope}
    (methods : ∀ scope, (edit scope).methods = scope.methods) :
    Keeps kept (changeScope edit) (fun _ => True) :=
  keeps_of_sameGround steady fun context => ⟨rfl, rfl, rfl, rfl, rfl, methods context.scope⟩

theorem addImport_keeps (uri : String) : Keeps kept (addImport uri) (fun _ => True) :=
  changeScope_keeps steady fun _ => rfl

theorem addImportAs_keeps (uri name : String) :
    Keeps kept (addImportAs uri name) (fun _ => True) :=
  changeScope_keeps steady fun _ => rfl

theorem addFont_keeps (family : String) : Keeps kept (addFont family) (fun _ => True) :=
  keeps_of_sameGround steady fun _ => ⟨rfl, rfl, rfl, rfl, rfl, rfl⟩

theorem addParam_keeps (param : Parameter) : Keeps kept (addParam param) (fun _ => True) := by
  refine Keeps.get fun context _ => ?_
  split
  · exact changeScope_keeps steady fun _ => rfl
  · exact Keeps.ite (fun _ => warnAll_keeps steady _) fun _ => Keeps.pure trivial

theorem addMethod_keeps {name body : String}
    (accepts : ∀ context, kept context → kept (context.withMethod name body)) :
    Keeps kept (addMethod name body) (fun _ => True) :=
  Keeps.get fun _ _ => Keeps.ite_skip (warnAll_keeps steady _) fun context known =>
    ⟨trivial, accepts context known⟩

theorem addPicture_keeps (id markup : String) :
    Keeps kept (addPicture id markup) (fun _ => True) :=
  changeScope_keeps steady fun _ => rfl

theorem inheritedOpacity_keeps [Scalar α] (layer : LayerInfo α) :
    Keeps kept (inheritedOpacity layer) (fun _ => True) :=
  keeps_of_sameGround steady fun _ => ⟨rfl, rfl, rfl, rfl, rfl, rfl⟩

end Primitives

end Compile

end DesignExport
