import DesignExport.Proofs.Compile.Composed
import DesignExport.Proofs.Compile.Keeps
set_option autoImplicit false

/-! Where steps of a compile lead from where. Facts that last are carried along over
steps that have nothing to do with them. -/

namespace DesignExport

section Leading

variable {α β γ : Type}

namespace Compile

/-- From contexts that are as required before it, a step comes to results and contexts
that are related as promised. -/
def Leads (before : Context α → Prop) (step : Compile α β) (after : β → Context α → Prop) : Prop :=
  ∀ context : Context α, before context → after (step.run context).1 (step.run context).2

namespace Leads

variable {before : Context α → Prop}

theorem pure {after : β → Context α → Prop} {value : β}
    (holds : ∀ context, before context → after value context) :
    Leads before (Pure.pure value) after :=
  holds

theorem bind {middle : β → Context α → Prop} {after : γ → Context α → Prop} {step : Compile α β}
    {next : β → Compile α γ} (first : Leads before step middle)
    (second : ∀ value, Leads (middle value) (next value) after) :
    Leads before (step >>= next) after :=
  fun context ready => second _ _ (first context ready)

/-- What is known before a step without looking at the context is known once and for all. -/
theorem of_fact {fact : Prop} {after : β → Context α → Prop} {step : Compile α β}
    (leads : fact → Leads (fun _ => True) step after) : Leads (fun _ => fact) step after :=
  fun context known => leads known context trivial

/-- Nothing is asked of the first step. -/
theorem bind_any {after : γ → Context α → Prop} {step : Compile α β} {next : β → Compile α γ}
    (second : ∀ value, Leads (fun _ => True) (next value) after) :
    Leads before (step >>= next) after :=
  fun _ _ => second _ _ trivial

theorem mono {middle after : β → Context α → Prop} {step : Compile α β}
    (strong : Leads before step middle) (weaken : ∀ value context, middle value context → after value context) :
    Leads before step after :=
  fun context ready => weaken _ _ (strong context ready)

theorem ite {condition : Prop} [Decidable condition] {after : β → Context α → Prop}
    {first second : Compile α β} (yes : condition → Leads before first after)
    (no : ¬condition → Leads before second after) :
    Leads before (if condition then first else second) after := by
  split
  case isTrue holds => exact yes holds
  case isFalse fails => exact no fails

/-- A step that is taken or replaced by another one in front of the rest. -/
theorem ite_bind {condition : Prop} [Decidable condition] {middle : β → Context α → Prop}
    {after : γ → Context α → Prop} {first second : Compile α β} {next : β → Compile α γ}
    (yes : Leads before first middle) (no : Leads before second middle)
    (rest : ∀ value, Leads (middle value) (next value) after) :
    Leads before (if condition then first >>= next else second >>= next) after :=
  ite (fun _ => yes.bind rest) fun _ => no.bind rest

/-- What two steps of reasoning promise together. -/
theorem and {one other : β → Context α → Prop} {step : Compile α β}
    (first : Leads before step one) (second : Leads before step other) :
    Leads before step (fun value context => one value context ∧ other value context) :=
  fun context ready => ⟨first context ready, second context ready⟩

end Leads

theorem Yields.leads {property : β → Prop} {step : Compile α β} (yields : Yields step property)
    (before : Context α → Prop) : Leads before step (fun value _ => property value) :=
  fun context _ => yields context

variable [Scalar α]

/-- A fact about contexts that no step takes away that draws only some units. -/
def Lasts (draws : ShapeUnit α → Prop) (fact : Context α → Prop) : Prop :=
  ∀ {β : Type} {step : Compile α β}, Composed draws (fun _ => True) True True step →
    ∀ context : Context α, fact context → fact (step.run context).2

variable {draws : ShapeUnit α → Prop}

namespace Lasts

theorem always (fact : Prop) : Lasts draws (fun _ => fact) :=
  fun _ _ known => known

theorem and {first second : Context α → Prop} (one : Lasts draws first) (other : Lasts draws second) :
    Lasts draws (fun context => first context ∧ second context) :=
  fun composed context known =>
    ⟨one composed context known.1, other composed context known.2⟩

/-- A parameter stays registered. -/
theorem param (name : String) : Lasts draws (fun context => name ∈ context.scope.params.keys) :=
  fun composed context known => (composed.scope_within context).params known

/-- A method stays built. -/
theorem method (name : String) : Lasts draws (fun context => name ∈ context.scope.methods.keys) :=
  fun composed context known => (composed.scope_within context).methods known

theorem picture (name : String) :
    Lasts draws (fun context => name ∈ context.scope.pictures.keys) :=
  fun composed context known => (composed.scope_within context).pictures known

/-- What lasts from widget to widget lasts while one of them is compiled. -/
theorem idle (base : Context α) : Lasts draws (fun context => context.idle = base) :=
  fun composed context known => (composed.framed.idle_eq context).trans known

end Lasts

/-- What a step brings about outlasts the steps after it. -/
theorem Leads.outlasts {before fact : Context α → Prop} {step : Compile α β} {next : β → Compile α γ}
    (first : Leads before step (fun _ => fact)) (lasts : Lasts draws fact)
    (rest : ∀ value, Composed draws (fun _ => True) True True (next value)) :
    Leads before (step >>= next) (fun _ => fact) :=
  first.bind fun value => lasts (rest value)

theorem Composed.carries {step : Compile α β} (composed : Composed draws (fun _ => True) True True step)
    {fact : Context α → Prop} (lasts : Lasts draws fact) : Leads fact step (fun _ => fact) :=
  lasts composed

end Compile

end Leading

/-! ### The bodies of build methods

A body stays in the table of methods unless another body is entered under its name, and then
there is a warning. -/

open Compile (Composed Lasts)

variable {α : Type}

/-- There has been a warning that a build method took the place of another one. -/
def Context.WarnsOfMethod (context : Context α) : Prop :=
  ∃ name : String, ⟨.warning, "Duplicate build method '" ++ name ++ "'", none⟩ ∈ context.log

/-- Something is shown by the body of a build method, or some body has been lost with a
warning. -/
def Context.ShowsInMethod (shows : String → Prop) (context : Context α) : Prop :=
  (∃ entry ∈ context.scope.methods, shows entry.2) ∨ context.WarnsOfMethod

variable {shows : String → Prop}

theorem Compile.addMethod_run_log (name body : String) (context : Context α) :
    ((addMethod name body).run context).2.log =
      if Table.contains context.scope.methods name then
        context.log ++ [⟨.warning, "Duplicate build method '" ++ name ++ "'", none⟩]
      else context.log := by
  rw [addMethod, run_get_bind]
  split
  · exact rfl
  · exact rfl

theorem Context.showsInMethod_addMethod {name body : String} (shown : shows body)
    (context : Context α) : ((Compile.addMethod name body).run context).2.ShowsInMethod shows := by
  refine Or.inl ⟨(name, body), ?_, shown⟩
  rw [Compile.addMethod_run_scope]
  exact Table.mem_insert_self _

/-- Entering a body loses no other one without a warning. -/
theorem Context.ShowsInMethod.addMethod {context : Context α} (known : context.ShowsInMethod shows)
    (name body : String) :
    ((Compile.addMethod name body).run context).2.ShowsInMethod shows := by
  rcases known with ⟨entry, member, shown⟩ | ⟨lost, warned⟩
  · by_cases same : entry.1 = name
    · refine Or.inr ⟨name, ?_⟩
      rw [Compile.addMethod_run_log, if_pos (same ▸ Table.contains_of_mem member)]
      exact List.mem_append_right _ List.mem_cons_self
    · refine Or.inl ⟨entry, ?_, shown⟩
      rw [Compile.addMethod_run_scope]
      exact Table.mem_insert_of_ne same member
  · refine Or.inr ⟨lost, ?_⟩
    rw [Compile.addMethod_run_log]
    split
    · exact List.mem_append_left _ warned
    · exact warned

theorem Context.ShowsInMethod.of_eq {first second : Context α}
    (methods : second.scope.methods = first.scope.methods) (log : first.log <+: second.log)
    (known : first.ShowsInMethod shows) : second.ShowsInMethod shows := by
  rcases known with ⟨entry, member, shown⟩ | ⟨lost, warned⟩
  · exact Or.inl ⟨entry, methods ▸ member, shown⟩
  · exact Or.inr ⟨lost, log.subset warned⟩

variable [Scalar α] {draws : ShapeUnit α → Prop}

theorem Compile.Composed.showsInMethod {builds : LayerInfo α → Prop} {renders declares : Prop}
    {β : Type} {step : Compile α β} (composed : Composed draws builds renders declares step) :
    ∀ context : Context α, context.ShowsInMethod shows →
      (step.run context).2.ShowsInMethod shows := by
  have log {γ : Type} {inner : Compile α γ} (framed : Framed inner) (context : Context α) :
      context.log <+: (inner.run context).2.log := by
    rw [framed.run_eq]
    exact List.prefix_append _ _
  induction composed with
  | pure value => exact fun _ known => known
  | bind _ _ ihFirst ihSecond => exact fun context known => ihSecond _ _ (ihFirst context known)
  | get _ _ ihEach => exact fun context known => ihEach context context known
  | note entries => exact fun context => Context.ShowsInMethod.of_eq rfl (log (note_framed _) context)
  | addDirective _ =>
      exact fun context => Context.ShowsInMethod.of_eq rfl (log (addDirective_framed _) context)
  | addFont family =>
      exact fun context => Context.ShowsInMethod.of_eq rfl (log (addFont_framed _) context)
  | addParam param _ =>
      intro context
      refine Context.ShowsInMethod.of_eq ?_ (log (addParam_framed param) context)
      rcases addParam_run_scope param context with ⟨added, _⟩ | ⟨same, _⟩
      · rw [added]
      · rw [same]
  | addMethod _ body _ ihRest =>
      exact fun context known => ihRest context.settings _ (known.addMethod _ body)
  | addRender layer _ =>
      exact fun context => Context.ShowsInMethod.of_eq rfl (log (addRender_framed layer) context)
  | @source unit _ =>
      intro context
      refine Context.ShowsInMethod.of_eq ?_ (log (Picture.source_framed unit) context)
      cases target : context.target with
      | clipboard => rw [Picture.source_run_clipboard_scope unit target]
      | files => rw [Picture.source_run_files_scope unit target]

/-- What the body of a method shows lasts, but for warnings. -/
theorem Context.lasts_showsInMethod (shows : String → Prop) :
    Lasts draws (Context.ShowsInMethod shows : Context α → Prop) :=
  fun composed => composed.showsInMethod

end DesignExport
