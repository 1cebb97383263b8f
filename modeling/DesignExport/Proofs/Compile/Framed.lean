import DesignExport.Compile.Context
set_option autoImplicit false

/-! Compile steps record diagnostics, fonts and renders, and never look at what was
recorded before. Whatever stands in these records, a step gives the same result and
puts the same entries behind it. -/

namespace DesignExport

variable {α β γ : Type}

/-! ### Lists without repetition -/

/-- Adds texts one after the other, each unless it is there already. -/
def addAllOnce (texts list : List String) : List String :=
  texts.foldl (fun found text => addOnce text found) list

theorem mem_addOnce (text other : String) (list : List String) :
    other ∈ addOnce text list ↔ other ∈ list ∨ other = text := by
  unfold addOnce
  split
  case isTrue known =>
    have member : text ∈ list := List.contains_iff_mem.mp known
    constructor
    · exact Or.inl
    · intro either
      rcases either with here | same
      · exact here
      · exact same ▸ member
  case isFalse => rw [List.mem_append, List.mem_singleton]

theorem mem_addAllOnce (texts list : List String) (other : String) :
    other ∈ addAllOnce texts list ↔ other ∈ texts ∨ other ∈ list := by
  induction texts generalizing list with
  | nil => simp [addAllOnce]
  | cons text rest ih =>
      change other ∈ addAllOnce rest (addOnce text list) ↔ _
      rw [ih, mem_addOnce, List.mem_cons, or_comm (a := other = text), or_assoc,
        or_comm (a := other = text)]

theorem addAllOnce_addOnce (text : String) (texts list : List String) :
    addAllOnce (addOnce text texts) list = addOnce text (addAllOnce texts list) := by
  cases known : texts.contains text with
  | true =>
      have member : text ∈ addAllOnce texts list :=
        (mem_addAllOnce texts list text).mpr (Or.inl (List.contains_iff_mem.mp known))
      rw [addOnce, addOnce, if_pos known, if_pos (List.contains_iff_mem.mpr member)]
  | false =>
      rw [addOnce, if_neg (by rw [known]; exact Bool.false_ne_true)]
      exact List.foldl_append

theorem addAllOnce_assoc (last middle first : List String) :
    addAllOnce last (addAllOnce middle first) = addAllOnce (addAllOnce last middle) first := by
  induction last generalizing middle with
  | nil => rfl
  | cons text rest ih =>
      change addAllOnce rest (addOnce text (addAllOnce middle first)) =
        addAllOnce (addAllOnce rest (addOnce text middle)) first
      rw [← addAllOnce_addOnce, ih]

namespace Context

/-- A context in which nothing has been recorded. -/
def bare (context : Context α) : Context α :=
  { context with log := [], fonts := [], raster := { context.raster with pending := [] } }

/-- Puts the records of an earlier context in front. -/
def onto (later earlier : Context α) : Context α :=
  { later with
    log := earlier.log ++ later.log
    fonts := addAllOnce later.fonts earlier.fonts
    raster := { later.raster with pending := earlier.raster.pending ++ later.raster.pending } }

/-- What is left of a context between two widgets: what no step changes. -/
def idle (context : Context α) : Context α :=
  { context.bare with raster := RasterQueue.empty, scope := WidgetScope.empty "" }

section Idle

variable {first second : Context α} (same : first.idle = second.idle)

include same

theorem index_eq_of_idle_eq : first.index = second.index := by
  have kept := congrArg Context.index same
  exact kept

theorem settings_eq_of_idle_eq : first.settings = second.settings := by
  have kept := congrArg Context.settings same
  exact kept

theorem target_eq_of_idle_eq : first.target = second.target := by
  have kept := congrArg Context.target same
  exact kept

theorem widgetNames_eq_of_idle_eq : first.widgetNames = second.widgetNames := by
  have kept := congrArg Context.widgetNames same
  exact kept

end Idle

theorem bare_onto_self (context : Context α) : context.bare.onto context = context := by
  simp only [onto, bare, addAllOnce, List.foldl_nil, List.append_nil]

theorem bare_onto (later earlier : Context α) : (later.onto earlier).bare = later.bare :=
  rfl

theorem onto_assoc (last middle first : Context α) :
    last.onto (middle.onto first) = (last.onto middle).onto first := by
  simp only [onto, addAllOnce_assoc, List.append_assoc]

end Context

namespace Compile

/-- A step that adds to the records of a context without reading them, and keeps
what lasts from widget to widget. -/
structure Framed (step : Compile α β) : Prop where
  run_eq : ∀ context : Context α,
    step.run context = ((step.run context.bare).1, (step.run context.bare).2.onto context)
  idle_eq : ∀ context : Context α, (step.run context).2.idle = context.idle

namespace Framed

theorem pure (value : β) : Framed (Pure.pure value : Compile α β) where
  run_eq context := congrArg (Prod.mk value) (Context.bare_onto_self context).symm
  idle_eq _ := rfl

theorem bind {step : Compile α β} {next : β → Compile α γ} (first : Framed step)
    (second : ∀ value, Framed (next value)) : Framed (step >>= next) where
  run_eq context := by
    have opened : ∀ start : Context α, (step >>= next).run start =
        (next (step.run start).1).run (step.run start).2 := fun _ => rfl
    rw [opened, opened, first.run_eq context]
    generalize step.run context.bare = result
    obtain ⟨value, later⟩ := result
    rw [(second value).run_eq (later.onto context), (second value).run_eq later,
      Context.bare_onto, Context.onto_assoc]
  idle_eq context :=
    ((second _).idle_eq _).trans (first.idle_eq context)

/-- A step may depend on everything in a context but the records. -/
theorem get {next : Context α → Compile α β} (framed : ∀ context, Framed (next context))
    (blind : ∀ context, next context.bare = next context) : Framed (MonadState.get >>= next) where
  run_eq context := by
    change (next context).run context =
      (((next context.bare).run context.bare).1, ((next context.bare).run context.bare).2.onto context)
    rw [blind]
    exact (framed context).run_eq context
  idle_eq context := (framed context).idle_eq context

theorem ite {condition : Prop} [Decidable condition] {first second : Compile α β}
    (yes : Framed first) (no : Framed second) : Framed (if condition then first else second) := by
  split
  · exact yes
  · exact no

/-- A step that is taken or replaced by another one in front of the rest. -/
theorem ite_bind {condition : Prop} [Decidable condition] {first second : Compile α β}
    {next : β → Compile α γ} (yes : Framed first) (no : Framed second)
    (rest : ∀ value, Framed (next value)) :
    Framed (if condition then first >>= next else second >>= next) :=
  ite (yes.bind rest) (no.bind rest)

/-- A step that is taken or left out in front of the rest. -/
theorem ite_skip {condition : Prop} [Decidable condition] {first : Compile α Unit}
    {next : Unit → Compile α β} (yes : Framed first) (rest : Framed (next ())) :
    Framed (if condition then first >>= next else next ()) :=
  ite (yes.bind fun _ => rest) rest

section Kept

variable {step : Compile α β} (framed : Framed step) (context : Context α)

include framed

theorem index_eq : (step.run context).2.index = context.index :=
  Context.index_eq_of_idle_eq (framed.idle_eq context)

theorem settings_eq : (step.run context).2.settings = context.settings :=
  Context.settings_eq_of_idle_eq (framed.idle_eq context)

theorem target_eq : (step.run context).2.target = context.target :=
  Context.target_eq_of_idle_eq (framed.idle_eq context)

end Kept

end Framed

section Primitives

/-- A step given by its result and by what it makes of the context. -/
theorem framed_of_run {step : Compile α β} {result : Context α → β}
    {change : Context α → Context α} (run : ∀ context, step.run context = (result context, change context))
    (blind : ∀ context, result context.bare = result context)
    (framed : ∀ context, (change context.bare).onto context = change context)
    (idle : ∀ context, (change context).idle = context.idle) : Framed step where
  run_eq context := by rw [run, run, blind, framed]
  idle_eq context := by rw [run, idle]

theorem note_framed (entries : Log) : Framed (note entries : Compile α Unit) := by
  refine framed_of_run (fun _ => rfl) (fun _ => rfl) (fun context => ?_) (fun _ => rfl)
  simp only [Context.bare, Context.onto, addAllOnce, List.foldl_nil, List.append_nil,
    List.nil_append]

theorem noting_framed (result : β × Log) : Framed (noting result : Compile α β) :=
  (note_framed _).bind fun _ => Framed.pure _

theorem warnAll_framed (message : String) : Framed (warnAll message : Compile α Unit) :=
  note_framed _

theorem settings_framed : Framed (settings : Compile α Settings) :=
  Framed.get (fun _ => Framed.pure _) fun _ => rfl

theorem changeScope_framed (edit : WidgetScope → WidgetScope) :
    Framed (changeScope edit : Compile α Unit) := by
  refine framed_of_run (fun _ => rfl) (fun _ => rfl) (fun context => ?_) (fun _ => rfl)
  simp only [Context.bare, Context.onto, addAllOnce, List.foldl_nil, List.append_nil]

theorem beginWidget_framed (name : String) : Framed (beginWidget name : Compile α Unit) := by
  refine framed_of_run (fun _ => rfl) (fun _ => rfl) (fun context => ?_) (fun _ => rfl)
  simp only [Context.bare, Context.onto, RasterQueue.start, addAllOnce, List.foldl_nil,
    List.append_nil]

theorem finishWidget_framed : Framed (finishWidget : Compile α WidgetScope) := by
  refine framed_of_run (fun _ => rfl) (fun _ => rfl) (fun context => ?_) (fun _ => rfl)
  simp only [Context.bare, Context.onto, addAllOnce, List.foldl_nil, List.append_nil]

theorem addDirective_framed (directive : String) :
    Framed (addDirective directive : Compile α Unit) := by
  unfold addDirective
  exact changeScope_framed _

theorem addFont_framed (family : String) : Framed (addFont family : Compile α Unit) := by
  refine framed_of_run (fun _ => rfl) (fun _ => rfl) (fun context => ?_) (fun _ => rfl)
  simp only [Context.bare, Context.onto, List.append_nil]
  rfl

theorem addParam_framed (param : Parameter) : Framed (addParam param : Compile α Unit) := by
  refine Framed.get (fun context => ?_) (fun _ => rfl)
  split
  · exact changeScope_framed _
  · exact Framed.ite (warnAll_framed _) (Framed.pure ())

theorem addMethod_framed (name body : String) : Framed (addMethod name body : Compile α Unit) :=
  Framed.get (fun _ => Framed.ite_skip (warnAll_framed _) (changeScope_framed _)) fun _ => rfl

theorem addPicture_framed (id markup : String) :
    Framed (addPicture id markup : Compile α Unit) := by
  unfold addPicture
  exact changeScope_framed _

/-- The path of an image depends on the folder and on the names in it, and not on the
renders that wait. -/
theorem addRender_framed [Scalar α] (layer : LayerInfo α) : Framed (addRender layer) := by
  refine framed_of_run (fun _ => rfl) (fun _ => rfl) (fun context => ?_) (fun _ => rfl)
  simp only [Context.bare, Context.onto, addAllOnce, List.foldl_nil, List.append_nil]
  rfl

end Primitives

end Compile

end DesignExport
