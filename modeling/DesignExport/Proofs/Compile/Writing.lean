import DesignExport.Expression.Label
import DesignExport.Proofs.Compile.Composed
set_option autoImplicit false

/-! Steps that write code. They declare nothing, they look at few parts of a context, and
the fonts that they record are those of the runs that they use. -/

namespace DesignExport

variable {α β γ : Type}

theorem Label.useFont_run [Scalar α] (run : TextRun α) (context : Context α) :
    (useFont run).run context =
      if (context.settings.font run.family).isEmpty then ((), context)
      else
        ((), { context with
          fonts := addOnce (context.settings.font run.family) context.fonts }) := by
  rw [useFont, Compile.run_bind]
  change StateT.run (if (context.settings.font run.family).isEmpty then pure ()
    else Compile.addFont (context.settings.font run.family)) context = _
  split
  · exact rfl
  · exact rfl

namespace Compile

/-- A step that is put together from the basic ones of writing. The runs of text whose fonts
it records, the units that it draws and the layers whose methods it builds are among some,
and it renders layers only if it may. -/
inductive Writing [Scalar α] (uses : TextRun α → Prop) (draws : ShapeUnit α → Prop)
    (builds : LayerInfo α → Prop) (renders : Prop) : {β : Type} → Compile α β → Prop where
  | pure {β : Type} (value : β) : Writing uses draws builds renders (Pure.pure value)
  | bind {β γ : Type} {step : Compile α β} {next : β → Compile α γ}
      (first : Writing uses draws builds renders step)
      (second : ∀ value, Writing uses draws builds renders (next value)) :
      Writing uses draws builds renders (step >>= next)
  | settings : Writing uses draws builds renders Compile.settings
  | inheritedOpacity (layer : LayerInfo α) :
      Writing uses draws builds renders (Compile.inheritedOpacity layer)
  | note (entries : Log) : Writing uses draws builds renders (Compile.note entries)
  | addDirective {directive : String} (known : directive ∈ packageDirectives) :
      Writing uses draws builds renders (Compile.addDirective directive)
  | useFont {run : TextRun α} (used : uses run) :
      Writing uses draws builds renders (Label.useFont run)
  | addMethod {β : Type} {layer : LayerInfo α} (built : builds layer) (body : String)
      {next : Settings → Compile α β}
      (rest : ∀ settings, Writing uses draws builds renders (next settings)) :
      Writing uses draws builds renders (Compile.settings >>= fun settings =>
        Compile.addMethod (layer.methodName settings.normalizeNameCase) body >>= fun _ =>
          next settings)
  | addRender (layer : LayerInfo α) (allowed : renders) :
      Writing uses draws builds renders (Compile.addRender layer)
  | source {unit : ShapeUnit α} (drawn : draws unit) :
      Writing uses draws builds renders (Picture.source unit)

variable [Scalar α] {uses : TextRun α → Prop} {draws : ShapeUnit α → Prop}
  {builds : LayerInfo α → Prop} {renders declares : Prop}

namespace Writing

/-! ### Steps that are used often -/

theorem ite {condition : Prop} [Decidable condition] {first second : Compile α β}
    (yes : Writing uses draws builds renders first) (no : Writing uses draws builds renders second) :
    Writing uses draws builds renders (if condition then first else second) := by
  split
  · exact yes
  · exact no

theorem ite_bind {condition : Prop} [Decidable condition] {first second : Compile α β}
    {next : β → Compile α γ} (yes : condition → Writing uses draws builds renders first)
    (no : ¬ condition → Writing uses draws builds renders second)
    (rest : ∀ value, Writing uses draws builds renders (next value)) :
    Writing uses draws builds renders (if condition then first >>= next else second >>= next) := by
  split
  case isTrue holds => exact (yes holds).bind rest
  case isFalse fails => exact (no fails).bind rest

theorem ite_skip {condition : Prop} [Decidable condition] {first : Compile α Unit}
    {next : Unit → Compile α β} (yes : Writing uses draws builds renders first)
    (rest : Writing uses draws builds renders (next ())) :
    Writing uses draws builds renders (if condition then first >>= next else next ()) :=
  ite (yes.bind fun _ => rest) rest

theorem noting (result : β × Log) :
    Writing uses draws builds renders (Compile.noting result : Compile α β) :=
  (note _).bind fun _ => pure _

theorem warn (message : String) (layer : LayerInfo α) :
    Writing uses draws builds renders (Compile.warn message layer) :=
  note _

/-! ### What writing has in common -/

theorem composed {step : Compile α β} (writing : Writing uses draws builds renders step) :
    Composed draws builds renders declares step := by
  induction writing with
  | pure value => exact Composed.pure value
  | bind _ _ first second => exact first.bind second
  | settings => exact Composed.settings
  | inheritedOpacity layer => exact Composed.inheritedOpacity layer
  | note entries => exact Composed.note entries
  | addDirective known => exact Composed.addDirective known
  | useFont _ =>
      refine Composed.settings.bind fun settings => ?_
      exact Composed.ite (Composed.pure ()) (Composed.addFont _)
  | addMethod built body _ rest => exact Composed.addMethod built body rest
  | addRender layer allowed => exact Composed.addRender layer allowed
  | source drawn => exact Composed.source drawn

theorem framed {step : Compile α β} (writing : Writing uses draws builds renders step) :
    Framed step := by
  have steps : Composed draws builds renders True step := writing.composed
  exact steps.framed

/-- New fonts are those of the runs that are used. -/
theorem mem_fonts {step : Compile α β} (writing : Writing uses draws builds renders step)
    (family : String) : ∀ context : Context α, family ∈ (step.run context).2.fonts →
      family ∈ context.fonts ∨
        ∃ run, uses run ∧ context.settings.font run.family = family ∧ family ≠ "" := by
  induction writing with
  | pure value => exact fun _ known => Or.inl known
  | @bind _ _ step _ first _ ihFirst ihSecond =>
      intro context later
      rcases ihSecond _ (step.run context).2 later with before | ⟨run, used, same, present⟩
      · exact ihFirst context before
      · rw [first.framed.settings_eq] at same
        exact Or.inr ⟨run, used, same, present⟩
  | settings => exact fun _ known => Or.inl known
  | inheritedOpacity layer => exact fun _ known => Or.inl known
  | note entries => exact fun _ known => Or.inl known
  | addDirective _ => exact fun _ known => Or.inl known
  | @useFont run used =>
      intro context later
      rw [Label.useFont_run] at later
      split at later
      case isTrue => exact Or.inl later
      case isFalse present =>
        rcases (mem_addOnce _ _ _).mp later with before | same
        · exact Or.inl before
        · refine Or.inr ⟨run, used, same.symm, fun none => present ?_⟩
          rw [← same, none]
          rfl
  | @addMethod _ layer _ body _ _ ihRest =>
      intro context later
      let name := layer.methodName context.settings.normalizeNameCase
      have framed : Framed (Compile.addMethod name body : Compile α Unit) := addMethod_framed _ _
      have step := ihRest context.settings ((Compile.addMethod name body).run context).2 later
      rw [framed.settings_eq] at step
      refine step.imp_left fun before => ?_
      rw [Compile.addMethod, run_get_bind] at before
      split at before
      · exact before
      · exact before
  | addRender layer _ => exact fun _ known => Or.inl known
  | @source unit _ =>
      intro context later
      rw [Picture.source, run_get_bind] at later
      cases target : context.target with
      | clipboard =>
          rw [target] at later
          exact Or.inl later
      | files =>
          rw [target] at later
          exact Or.inl later

end Writing

theorem composed_of_writing {step : Compile α β}
    (writing : Writing (fun _ => True) draws builds renders step) :
    Composed draws builds renders declares step :=
  writing.composed

end Compile

/-- What writing looks at is the same in two contexts. -/
structure Context.LooksLike [Scalar α] (first second : Context α) : Prop where
  settings : first.settings = second.settings
  target : first.target = second.target
  opacity : first.index.inheritedOpacity = second.index.inheritedOpacity
  raster : first.raster = second.raster

/-- In contexts that look alike a step gives the same result, and leaves them alike. -/
def Compile.Agrees [Scalar α] (step : Compile α β) : Prop :=
  ∀ ⦃first second : Context α⦄, first.LooksLike second →
    (step.run first).1 = (step.run second).1 ∧
      (step.run first).2.LooksLike (step.run second).2

namespace Compile.Agrees

variable [Scalar α]

theorem pure (value : β) : Agrees (Pure.pure value : Compile α β) :=
  fun _ _ alike => ⟨rfl, alike⟩

theorem bind {step : Compile α β} {next : β → Compile α γ} (first : Agrees step)
    (second : ∀ value, Agrees (next value)) : Agrees (step >>= next) := by
  intro one other alike
  obtain ⟨same, still⟩ := first alike
  rw [run_bind, run_bind, same]
  exact second _ still

theorem get {next : Context α → Compile α β} (each : ∀ context, Agrees (next context))
    (blind : ∀ first second : Context α, first.LooksLike second → next first = next second) :
    Agrees (MonadState.get >>= next) := by
  intro first second alike
  rw [run_get_bind, run_get_bind, blind first second alike]
  exact each second alike

theorem settings : Agrees (Compile.settings : Compile α Settings) :=
  fun _ _ alike => ⟨alike.settings, alike⟩

theorem note (entries : Log) : Agrees (Compile.note entries : Compile α Unit) :=
  fun _ _ alike => ⟨rfl, alike.settings, alike.target, alike.opacity, alike.raster⟩

theorem changeScope (edit : WidgetScope → WidgetScope) :
    Agrees (Compile.changeScope edit : Compile α Unit) :=
  fun _ _ alike => ⟨rfl, alike.settings, alike.target, alike.opacity, alike.raster⟩

theorem addFont (family : String) : Agrees (Compile.addFont family : Compile α Unit) :=
  fun _ _ alike => ⟨rfl, alike.settings, alike.target, alike.opacity, alike.raster⟩

theorem addRender (layer : LayerInfo α) : Agrees (Compile.addRender layer) := by
  intro first second alike
  refine ⟨?_, alike.settings, alike.target, alike.opacity, ?_⟩
  · change (first.raster.add layer).2 = (second.raster.add layer).2
    rw [alike.raster]
  · change (first.raster.add layer).1 = (second.raster.add layer).1
    rw [alike.raster]

theorem inheritedOpacity (layer : LayerInfo α) : Agrees (Compile.inheritedOpacity layer) :=
  fun _ _ alike => ⟨congrFun alike.opacity layer, alike⟩

/-- Whether a name is known makes a difference for the log only. -/
theorem addMethod (name body : String) : Agrees (Compile.addMethod name body : Compile α Unit) := by
  have leaves (context : Context α) :
      ((Compile.addMethod name body).run context).2.LooksLike context := by
    rw [Compile.addMethod, run_get_bind]
    split
    · exact ⟨rfl, rfl, rfl, rfl⟩
    · exact ⟨rfl, rfl, rfl, rfl⟩
  intro first second alike
  have one := leaves first
  have other := leaves second
  exact ⟨rfl, one.settings.trans (alike.settings.trans other.settings.symm),
    one.target.trans (alike.target.trans other.target.symm),
    one.opacity.trans (alike.opacity.trans other.opacity.symm),
    one.raster.trans (alike.raster.trans other.raster.symm)⟩

theorem useFont (run : TextRun α) : Agrees (Label.useFont run) := by
  refine settings.bind fun settings => ?_
  dsimp only
  split
  · exact pure ()
  · exact addFont _

theorem markup (unit : ShapeUnit α) : Agrees (Picture.markup unit) :=
  get (fun _ => (note _).bind fun _ => pure _) fun _ _ alike => by rw [alike.opacity]

theorem id (unit : ShapeUnit α) : Agrees (Picture.id unit) :=
  get (fun _ => (note _).bind fun _ => pure _) fun _ _ alike => by rw [alike.opacity]

theorem source (unit : ShapeUnit α) : Agrees (Picture.source unit) := by
  refine get (fun context => ?_) fun _ _ alike => by rw [alike.target]
  cases context.target with
  | clipboard => exact (markup unit).bind fun _ => pure _
  | files =>
      refine (id unit).bind fun named => ?_
      refine (markup named.2).bind fun text => ?_
      exact (changeScope _).bind fun _ => pure _

end Compile.Agrees

/-- Writing looks at nothing else. -/
theorem Compile.Writing.agrees [Scalar α] {uses : TextRun α → Prop} {draws : ShapeUnit α → Prop}
    {builds : LayerInfo α → Prop} {renders : Prop} {step : Compile α β}
    (writing : Writing uses draws builds renders step) : Agrees step := by
  induction writing with
  | pure value => exact Agrees.pure value
  | bind _ _ first second => exact first.bind second
  | settings => exact Agrees.settings
  | inheritedOpacity layer => exact Agrees.inheritedOpacity layer
  | note entries => exact Agrees.note entries
  | addDirective _ => exact Agrees.changeScope _
  | useFont _ => exact Agrees.useFont _
  | addMethod _ body _ rest =>
      exact Agrees.settings.bind fun settings =>
        (Agrees.addMethod _ body).bind fun _ => rest settings
  | addRender layer _ => exact Agrees.addRender layer
  | source _ => exact Agrees.source _

end DesignExport
