import DesignExport.Export.Run
set_option autoImplicit false

/-! Exports to hosts of all kinds. Two exports to hosts with corresponding answers correspond,
and a watched host keeps the list of its calls. -/

namespace DesignExport

section Corresponding

/-- A relation between the steps of two monads that sequencing keeps. -/
structure Correspondence (m n : Type → Type) [Monad m] [Monad n] where
  Holds : {β : Type} → m β → n β → Prop
  pure : ∀ {β : Type} (value : β), Holds (Pure.pure value) (Pure.pure value)
  bind : ∀ {β γ : Type} {first : m β} {second : n β} {next : β → m γ} {other : β → n γ},
    Holds first second → (∀ value, Holds (next value) (other value)) →
      Holds (first >>= next) (second >>= other)

variable {α β γ : Type} {m n : Type → Type} [Monad m] [Monad n]

/-- Both hosts give corresponding answers to every call. -/
structure Correspondence.Hosts (same : Correspondence m n) (first : Host m α) (second : Host n α) :
    Prop where
  write : ∀ name text : String, same.Holds (first.write name text) (second.write name text)
  render : ∀ requests : List (RasterRequest α),
    same.Holds (first.render requests) (second.render requests)

/-- Steps of an export that correspond from every context. -/
def Correspondence.Steps (same : Correspondence m n) (first : Exporting m α β)
    (second : Exporting n α β) : Prop :=
  ∀ context : Context α, same.Holds (first.run context) (second.run context)

namespace Correspondence

variable (same : Correspondence m n)

namespace Steps

theorem pure (value : β) :
    same.Steps (Pure.pure value : Exporting m α β) (Pure.pure value : Exporting n α β) :=
  fun _ => same.pure _

variable {same}

theorem bind {first : Exporting m α β} {second : Exporting n α β} {next : β → Exporting m α γ}
    {other : β → Exporting n α γ} (steps : same.Steps first second)
    (rest : ∀ value, same.Steps (next value) (other value)) :
    same.Steps (first >>= next) (second >>= other) :=
  fun context => same.bind (steps context) fun result => rest result.1 result.2

theorem answer {first : m β} {second : n β} (answers : same.Holds first second) :
    same.Steps (liftM first : Exporting m α β) (liftM second : Exporting n α β) :=
  fun _ => same.bind answers fun _ => same.pure _

variable (same)

theorem compile (step : Compile α β) :
    same.Steps (Exporting.compile step : Exporting m α β) (Exporting.compile step) :=
  fun _ => same.pure _

end Steps

section Exports

variable {same} {first : Host m α} {second : Host n α} (hosts : same.Hosts first second)

theorem noteError_steps (message : String) (layer : Option (LayerInfo α)) :
    same.Steps (Exporting.noteError message layer : Exporting m α Unit)
      (Exporting.noteError message layer) :=
  Steps.compile same _

theorem report_steps (message : String) (files : List String) :
    same.Steps (α := α) (Exporting.report message files) (Exporting.report message files) := by
  refine Steps.bind (fun context => same.pure _) fun context => ?_
  exact Steps.bind (fun _ => same.pure _) fun _ => Steps.pure same _

include hosts

theorem renderPending_steps :
    same.Steps (Exporting.renderPending first) (Exporting.renderPending second) := by
  refine Steps.bind (Steps.compile same _) fun requests => ?_
  split
  · exact Steps.pure same _
  · refine Steps.bind (Steps.answer (hosts.render requests)) fun reply => ?_
    cases reply with
    | ok done => exact Steps.pure same _
    | error error => exact noteError_steps _ _

theorem writeAsset_steps (file : Option SourceFile) :
    same.Steps (Exporting.writeAsset first file) (Exporting.writeAsset second file) := by
  cases file with
  | none => exact Steps.pure same _
  | some file =>
      refine Steps.bind (Steps.answer (hosts.write _ _)) fun reply => ?_
      cases reply with
      | ok done => exact Steps.pure same _
      | error error => exact Steps.bind (noteError_steps _ _) fun _ => Steps.pure same _

variable [Scalar α]

theorem writeAssets_steps (assets : Assets α) :
    same.Steps (Exporting.writeAssets first assets) (Exporting.writeAssets second assets) := by
  refine Steps.bind (Steps.compile same _) fun settings => ?_
  refine Steps.bind (Steps.compile same _) fun colors => ?_
  refine Steps.bind (Steps.compile same _) fun styles => ?_
  refine Steps.bind (writeAsset_steps hosts _) fun colorFiles => ?_
  exact Steps.bind (writeAsset_steps hosts _) fun styleFiles => Steps.pure same _

theorem writeWidget_steps (widget : Layer α) :
    same.Steps (Exporting.writeWidget first widget) (Exporting.writeWidget second widget) := by
  refine Steps.bind (Steps.compile same _) fun result => ?_
  cases result with
  | error error => exact Steps.pure same _
  | ok file =>
      refine Steps.bind (Steps.answer (hosts.write _ _)) fun reply => ?_
      cases reply with
      | error error => exact Steps.pure same _
      | ok done => exact Steps.pure same _

theorem writeWidgets_steps (widgets : List (Layer α)) :
    same.Steps (Exporting.writeWidgets first widgets) (Exporting.writeWidgets second widgets) := by
  induction widgets with
  | nil => exact Steps.pure same _
  | cons widget rest ih =>
      have others (written : List String) :
          same.Steps
            (do
              Exporting.renderPending first
              let files ← Exporting.writeWidgets first rest
              return written ++ files)
            (do
              Exporting.renderPending second
              let files ← Exporting.writeWidgets second rest
              return written ++ files) := by
        refine Steps.bind (renderPending_steps hosts) fun _ => ?_
        exact Steps.bind ih fun _ => Steps.pure same _
      refine Steps.bind (writeWidget_steps hosts widget) fun result => ?_
      cases result with
      | ok file => exact Steps.bind (Steps.pure same _) others
      | error error =>
          refine Steps.bind (noteError_steps _ _) fun _ => ?_
          exact Steps.bind (Steps.pure same _) others

variable (document : Document α) (settings : Settings)

theorem exportAll_holds : same.Holds (document.exportAll settings first)
    (document.exportAll settings second) := by
  refine same.bind ?_ fun _ => same.pure _
  refine Steps.bind (writeWidgets_steps hosts _) (fun written => ?_) _
  exact Steps.bind (writeAssets_steps hosts _) fun assets => report_steps _ _

theorem exportWidget_holds (widget : Layer α) :
    same.Holds (document.exportWidget settings first widget)
      (document.exportWidget settings second widget) := by
  have others (message : String) (written : List String) :
      same.Steps
        (do
          let assets ← Exporting.writeAssets first document.assets
          Exporting.renderPending first
          Exporting.report message (written ++ assets))
        (do
          let assets ← Exporting.writeAssets second document.assets
          Exporting.renderPending second
          Exporting.report message (written ++ assets)) := by
    refine Steps.bind (writeAssets_steps hosts _) fun assets => ?_
    exact Steps.bind (renderPending_steps hosts) fun _ => report_steps _ _
  refine same.bind ?_ fun _ => same.pure _
  refine Steps.bind (writeWidget_steps hosts widget) (fun result => ?_) _
  cases result with
  | ok file => exact Steps.bind (Steps.pure same _) fun value => others value.1 value.2
  | error error =>
      refine Steps.bind (noteError_steps _ _) fun _ => ?_
      exact Steps.bind (Steps.pure same _) fun value => others value.1 value.2

theorem exportSelected_holds (guid : String) :
    same.Holds (document.exportSelected settings first guid)
      (document.exportSelected settings second guid) := by
  unfold Document.exportSelected
  split
  · exact same.pure _
  · split
    · exact same.pure _
    next widget enclosing =>
      exact same.bind (exportWidget_holds hosts document settings widget) fun _ => same.pure _

end Exports

end Correspondence

end Corresponding

/-! ### Hosts under observation

A host may hold any state and answer each call with
success or failure as it likes; a watched host also keeps the list of its calls. -/

variable {α β γ σ : Type}

/-- What an export asks of its host. -/
inductive HostCall (α : Type) where
  | write (name text : String)
  | render (requests : List (RasterRequest α))

/-- The state of a host, and the calls that it has had in order. -/
structure Watched (σ α : Type) where
  state : σ
  calls : List (HostCall α)

namespace Host

/-- Answers a call and adds it to the list. -/
def watch (call : HostCall α) (answer : StateM σ β) : StateM (Watched σ α) β := do
  let world ← get
  let (reply, state) := answer.run world.state
  set (⟨state, world.calls ++ [call]⟩ : Watched σ α)
  pure reply

def watched (host : Host (StateM σ) α) : Host (StateM (Watched σ α)) α where
  write name text := watch (.write name text) (host.write name text)
  render requests := watch (.render requests) (host.render requests)

end Host

namespace Exporting

/-- From every context with a property, and whatever the host answers, an export
step makes a list of calls, and a property of its result and of the context holds
afterwards. -/
def Makes (before : Context α → Prop) (step : Exporting (StateM (Watched σ α)) α β)
    (calls : List (HostCall α)) (after : β → Context α → Prop) : Prop :=
  ∀ (context : Context α) (world : Watched σ α), before context →
    ((step.run context).run world).2.calls = world.calls ++ calls ∧
      after ((step.run context).run world).1.1 ((step.run context).run world).1.2

namespace Makes

variable {before : Context α → Prop} {after : β → Context α → Prop}

theorem pure {value : β} (holds : ∀ context, before context → after value context) :
    Makes (σ := σ) before (Pure.pure value) [] after := by
  intro context world start
  exact ⟨(List.append_nil _).symm, holds context start⟩

theorem bind {step : Exporting (StateM (Watched σ α)) α β}
    {next : β → Exporting (StateM (Watched σ α)) α γ} {calls more : List (HostCall α)}
    {ending : γ → Context α → Prop} (first : Makes before step calls after)
    (second : ∀ value, Makes (after value) (next value) more ending) :
    Makes before (step >>= next) (calls ++ more) ending := by
  intro context world start
  obtain ⟨made, middle⟩ := first context world start
  obtain ⟨others, last⟩ := second _ _ ((step.run context).run world).2 middle
  rw [made, List.append_assoc] at others
  exact ⟨others, last⟩

theorem quiet_bind {step : Exporting (StateM (Watched σ α)) α β}
    {next : β → Exporting (StateM (Watched σ α)) α γ} {calls : List (HostCall α)}
    {ending : γ → Context α → Prop} (first : Makes before step [] after)
    (second : ∀ value, Makes (after value) (next value) calls ending) :
    Makes before (step >>= next) calls ending :=
  bind first second

theorem bind_quiet {step : Exporting (StateM (Watched σ α)) α β}
    {next : β → Exporting (StateM (Watched σ α)) α γ} {calls : List (HostCall α)}
    {ending : γ → Context α → Prop} (first : Makes before step calls after)
    (second : ∀ value, Makes (after value) (next value) [] ending) :
    Makes before (step >>= next) calls ending := by
  have both := bind first second
  rw [List.append_nil] at both
  exact both

/-- What is known of a result can be used for all that follows. -/
theorem of_fact {fact : Prop} {step : Exporting (StateM (Watched σ α)) α β}
    {calls : List (HostCall α)} (holds : fact → Makes before step calls after) :
    Makes (fun context => fact ∧ before context) step calls after := by
  intro context world start
  exact holds start.1 context world start.2

/-- The calls and the result of a whole export, without the context at its end. -/
theorem run_eq (property : β → Prop) {step : Exporting (StateM (Watched σ α)) α β}
    {calls : List (HostCall α)} (made : Makes before step calls (fun value _ => property value))
    {context : Context α} (start : before context) (world : Watched σ α) :
    ((do let (result, _) ← step.run context; Pure.pure result).run world).2.calls =
        world.calls ++ calls ∧
      property ((do let (result, _) ← step.run context; Pure.pure result).run world).1 :=
  made context world start

/-- A compile step makes no calls. -/
theorem compile {step : Compile α β}
    (holds : ∀ context, before context → after (step.run context).1 (step.run context).2) :
    Makes (σ := σ) before (Exporting.compile step) [] after := by
  intro context world start
  exact ⟨(List.append_nil _).symm, holds context start⟩

/-- Nothing is known of the answer to a call. -/
theorem watch (call : HostCall α) (answer : StateM σ β) :
    Makes before (liftM (Host.watch call answer) : Exporting (StateM (Watched σ α)) α β) [call]
      (fun _ => before) := by
  intro context world start
  exact ⟨rfl, start⟩

end Makes

end Exporting

/-- Steps that do under observation what others do without it. -/
def Correspondence.watching : Correspondence (StateM (Watched σ α)) (StateM σ) where
  Holds step other := ∀ world : Watched σ α,
    ((step.run world).1, (step.run world).2.state) = other.run world.state
  pure _ _ := rfl
  bind := by
    intro β γ step other next otherNext steps rest world
    have opened : (other >>= otherNext).run world.state =
        (otherNext (other.run world.state).1).run (other.run world.state).2 := rfl
    rw [opened, ← steps world]
    exact rest _ _

theorem Host.watched_watching (host : Host (StateM σ) α) :
    Correspondence.watching.Hosts host.watched host where
  write _ _ _ := rfl
  render _ _ := rfl

namespace Document

open Correspondence

variable [Scalar α] (document : Document α) (settings : Settings) (host : Host (StateM σ) α)
  (world : Watched σ α)

/-- Watching an export changes neither its report nor what the host goes through. -/
theorem exportAll_watched :
    (((document.exportAll settings host.watched).run world).1,
        ((document.exportAll settings host.watched).run world).2.state) =
      (document.exportAll settings host).run world.state :=
  exportAll_holds host.watched_watching document settings world

theorem exportWidget_watched (widget : Layer α) :
    (((document.exportWidget settings host.watched widget).run world).1,
        ((document.exportWidget settings host.watched widget).run world).2.state) =
      (document.exportWidget settings host widget).run world.state :=
  exportWidget_holds host.watched_watching document settings widget world

theorem exportSelected_watched (guid : String) :
    (((document.exportSelected settings host.watched guid).run world).1,
        ((document.exportSelected settings host.watched guid).run world).2.state) =
      (document.exportSelected settings host guid).run world.state :=
  exportSelected_holds host.watched_watching document settings guid world

end Document

end DesignExport
