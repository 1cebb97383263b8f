import DesignExport.Expression.Picture
import DesignExport.Proofs.Compile.Framed
import DesignExport.Proofs.Compile.Keeps
import DesignExport.Proofs.Table
set_option autoImplicit false

/-! Steps that are put together from the basic steps of a compile. What all basic steps
have in common, these have too: they do not read what has been recorded, they take
nothing out of the tables of a widget, and the pictures they put there are those of the
units that they draw. -/

namespace DesignExport

variable {α : Type}

namespace Picture

open Compile (Framed)

variable [Scalar α]

theorem markup_framed (unit : ShapeUnit α) : Framed (markup unit) :=
  Framed.get (fun _ => (Compile.note_framed _).bind fun _ => Framed.pure _) fun _ => rfl

theorem id_framed (unit : ShapeUnit α) : Framed (id unit) :=
  Framed.get (fun _ => (Compile.note_framed _).bind fun _ => Framed.pure _) fun _ => rfl

theorem source_framed (unit : ShapeUnit α) : Framed (source unit) := by
  refine Framed.get (fun context => ?_) fun _ => rfl
  cases context.target with
  | clipboard => exact (markup_framed unit).bind fun _ => Framed.pure _
  | files =>
      refine (id_framed unit).bind fun named => ?_
      refine (markup_framed named.2).bind fun text => ?_
      exact (Compile.addPicture_framed _ _).bind fun _ => Framed.pure _

end Picture

/-- The constant for a unit: its name and its markup. -/
def ShapeUnit.constant [Scalar α] (unit : ShapeUnit α) (opacityOf : Markup.OpacityOf α) :
    String × String :=
  let named := unit.id opacityOf
  (named.1, (named.2.1.markup opacityOf).1)

namespace Compile

variable {β γ : Type}

/-- The imports that generated code asks for. -/
def packageDirectives : List String :=
  [ "import 'package:flutter_svg/flutter_svg.dart';", "import 'package:adobe_xd/page_link.dart';",
    "import 'dart:ui' as ui;" ]

/-- A step that is put together from basic ones. The units that it draws and the layers
whose methods it builds are among some, and it renders layers and declares parameters only
if it may. -/
inductive Composed [Scalar α] (draws : ShapeUnit α → Prop) (builds : LayerInfo α → Prop)
    (renders declares : Prop) : {β : Type} → Compile α β → Prop where
  | pure {β : Type} (value : β) : Composed draws builds renders declares (Pure.pure value)
  | bind {β γ : Type} {step : Compile α β} {next : β → Compile α γ}
      (first : Composed draws builds renders declares step)
      (second : ∀ value, Composed draws builds renders declares (next value)) :
      Composed draws builds renders declares (step >>= next)
  /-- What has been recorded makes no difference. -/
  | get {β : Type} {next : Context α → Compile α β}
      (each : ∀ context, Composed draws builds renders declares (next context))
      (blind : ∀ context, next context.bare = next context) :
      Composed draws builds renders declares (MonadState.get >>= next)
  | note (entries : Log) : Composed draws builds renders declares (Compile.note entries)
  | addDirective {directive : String} (known : directive ∈ packageDirectives) :
      Composed draws builds renders declares (Compile.addDirective directive)
  | addFont (family : String) : Composed draws builds renders declares (Compile.addFont family)
  | addParam (param : Parameter) (allowed : declares) :
      Composed draws builds renders declares (Compile.addParam param)
  /-- The settings have a say in the name of a method. -/
  | addMethod {β : Type} {layer : LayerInfo α} (built : builds layer) (body : String)
      {next : Settings → Compile α β}
      (rest : ∀ settings, Composed draws builds renders declares (next settings)) :
      Composed draws builds renders declares (Compile.settings >>= fun settings =>
        Compile.addMethod (layer.methodName settings.normalizeNameCase) body >>= fun _ =>
          next settings)
  | addRender (layer : LayerInfo α) (allowed : renders) :
      Composed draws builds renders declares (Compile.addRender layer)
  | source {unit : ShapeUnit α} (drawn : draws unit) :
      Composed draws builds renders declares (Picture.source unit)

variable [Scalar α] {draws : ShapeUnit α → Prop}
  {builds : LayerInfo α → Prop} {renders declares : Prop}

namespace Composed

/-! ### Steps that are used often -/

theorem ite {condition : Prop} [Decidable condition] {first second : Compile α β}
    (yes : Composed draws builds renders declares first) (no : Composed draws builds renders declares second) :
    Composed draws builds renders declares (if condition then first else second) := by
  split
  · exact yes
  · exact no

/-- A step that is taken or replaced by another one in front of the rest. -/
theorem ite_bind {condition : Prop} [Decidable condition] {first second : Compile α β}
    {next : β → Compile α γ} (yes : Composed draws builds renders declares first)
    (no : Composed draws builds renders declares second)
    (rest : ∀ value, Composed draws builds renders declares (next value)) :
    Composed draws builds renders declares (if condition then first >>= next else second >>= next) :=
  ite (yes.bind rest) (no.bind rest)

/-- A step that is taken or left out in front of the rest. -/
theorem ite_skip {condition : Prop} [Decidable condition] {first : Compile α Unit}
    {next : Unit → Compile α β} (yes : Composed draws builds renders declares first)
    (rest : Composed draws builds renders declares (next ())) :
    Composed draws builds renders declares (if condition then first >>= next else next ()) :=
  ite (yes.bind fun _ => rest) rest

theorem noting (result : β × Log) :
    Composed draws builds renders declares (Compile.noting result : Compile α β) :=
  (note _).bind fun _ => pure _

theorem warn (message : String) (layer : LayerInfo α) :
    Composed draws builds renders declares (Compile.warn message layer) :=
  note _

theorem error (message : String) (layer : LayerInfo α) :
    Composed draws builds renders declares (Compile.error message layer) :=
  note _

theorem settings : Composed draws builds renders declares (Compile.settings : Compile α Settings) :=
  get (fun _ => pure _) fun _ => rfl

theorem inheritedOpacity (layer : LayerInfo α) :
    Composed draws builds renders declares (Compile.inheritedOpacity layer) :=
  get (fun _ => pure _) fun _ => rfl

/-! ### What the basic steps have in common -/

theorem framed {step : Compile α β} (composed : Composed draws builds renders declares step) :
    Framed step := by
  induction composed with
  | pure value => exact Framed.pure value
  | bind _ _ first second => exact first.bind second
  | get _ blind each => exact Framed.get each blind
  | note entries => exact note_framed entries
  | addDirective _ => exact addDirective_framed _
  | addFont family => exact addFont_framed family
  | addParam param _ => exact addParam_framed param
  | addMethod _ body _ rest =>
      exact settings_framed.bind fun settings => (addMethod_framed _ body).bind fun _ => rest settings
  | addRender layer _ => exact addRender_framed layer
  | source _ => exact Picture.source_framed _

end Composed

/-- Whatever a step draws, it does not read what has been recorded. -/
theorem framed_of_composed {step : Compile α β}
    (composed : Composed (fun _ => True) (fun _ => True) True True step) :
    Framed step :=
  composed.framed

end Compile

/-! ### The tables of a widget -/

/-- A property of the tables of a widget that entries do not take away which a step may
make. -/
structure WidgetScope.IsKept [Scalar α] (opacityOf : Markup.OpacityOf α) (normalize : Bool)
    (draws : ShapeUnit α → Prop) (builds : LayerInfo α → Prop) (declares : Prop)
    (kept : WidgetScope → Prop) : Prop where
  directive : ∀ (scope : WidgetScope) (directive : String), directive ∈ Compile.packageDirectives →
    kept scope → kept { scope with imports := addOnce directive scope.imports }
  param : ∀ (scope : WidgetScope) (param : Parameter), declares →
    Table.find? param.name scope.params = none → kept scope →
      kept { scope with params := scope.params ++ [(param.name, param)] }
  method : ∀ (scope : WidgetScope) (layer : LayerInfo α) (body : String), builds layer →
    kept scope →
      kept { scope with methods := scope.methods.insert (layer.methodName normalize) body }
  picture : ∀ (scope : WidgetScope) (unit : ShapeUnit α), draws unit → kept scope →
    kept { scope with
      pictures := scope.pictures.insert (unit.constant opacityOf).1 (unit.constant opacityOf).2 }

/-- A parameter is added unless its name is known. -/
theorem Compile.addParam_run_scope (param : Parameter) (context : Context α) :
    ((addParam param).run context).2.scope =
        { context.scope with params := context.scope.params ++ [(param.name, param)] } ∧
        Table.find? param.name context.scope.params = none ∨
      ((addParam param).run context).2.scope = context.scope ∧
        ∃ existing, Table.find? param.name context.scope.params = some existing := by
  rw [addParam, run_get_bind]
  split
  case h_1 fresh => exact Or.inl ⟨rfl, fresh⟩
  case h_2 existing found =>
    refine Or.inr ⟨?_, existing, found⟩
    split
    · exact rfl
    · exact rfl

theorem Compile.addMethod_run_scope (name body : String) (context : Context α) :
    ((addMethod name body).run context).2.scope =
      { context.scope with methods := context.scope.methods.insert name body } := by
  rw [addMethod, run_get_bind]
  split
  · exact rfl
  · exact rfl

namespace Picture

variable [Scalar α] (unit : ShapeUnit α) {context : Context α}

theorem source_run_files_scope (files : context.target = .files) :
    ((source unit).run context).2.scope = { context.scope with
      pictures := context.scope.pictures.insert (unit.constant context.index.inheritedOpacity).1
        (unit.constant context.index.inheritedOpacity).2 } := by
  rw [source, Compile.run_get_bind, files]
  rfl

theorem source_run_clipboard_scope (clipboard : context.target = .clipboard) :
    ((source unit).run context).2.scope = context.scope := by
  rw [source, Compile.run_get_bind, clipboard]
  rfl

end Picture

namespace Compile.Composed

variable {β : Type} [Scalar α] {draws : ShapeUnit α → Prop}
  {builds : LayerInfo α → Prop} {renders declares : Prop}

theorem keeps_scope {opacityOf : Markup.OpacityOf α} {normalize : Bool} {kept : WidgetScope → Prop}
    (invariant : WidgetScope.IsKept opacityOf normalize draws builds declares kept)
    {step : Compile α β} (composed : Composed draws builds renders declares step) :
    ∀ context : Context α, context.index.inheritedOpacity = opacityOf →
      context.settings.normalizeNameCase = normalize → kept context.scope →
        kept (step.run context).2.scope := by
  induction composed with
  | pure value => exact fun _ _ _ known => known
  | @bind _ _ step _ first _ ihFirst ihSecond =>
      intro context opacity names known
      have same : (step.run context).2.index.inheritedOpacity = opacityOf := by
        rw [first.framed.index_eq]
        exact opacity
      have named : (step.run context).2.settings.normalizeNameCase = normalize := by
        rw [first.framed.settings_eq]
        exact names
      exact ihSecond _ (step.run context).2 same named (ihFirst context opacity names known)
  | get _ _ ihEach =>
      exact fun context opacity names known => ihEach context context opacity names known
  | note entries => exact fun _ _ _ known => known
  | addDirective listed =>
      exact fun context _ _ known => invariant.directive context.scope _ listed known
  | addFont family => exact fun _ _ _ known => known
  | addParam param allowed =>
      intro context _ _ known
      rcases addParam_run_scope param context with ⟨added, fresh⟩ | ⟨same, _⟩
      · rw [added]
        exact invariant.param context.scope param allowed fresh known
      · rw [same]
        exact known
  | @addMethod _ layer built body _ _ ihRest =>
      intro context opacity names known
      let name := layer.methodName context.settings.normalizeNameCase
      let added := ((Compile.addMethod name body).run context).2
      have framed : Framed (Compile.addMethod name body : Compile α Unit) := addMethod_framed _ _
      refine ihRest context.settings added ?_ ?_ ?_
      · rw [framed.index_eq]
        exact opacity
      · rw [framed.settings_eq]
        exact names
      · change kept ((Compile.addMethod name body).run context).2.scope
        rw [addMethod_run_scope, show name = layer.methodName normalize by rw [← names]]
        exact invariant.method context.scope layer body built known
  | addRender layer _ => exact fun _ _ _ known => known
  | @source unit drawn =>
      intro context opacity _ known
      cases target : context.target with
      | clipboard =>
          rw [Picture.source_run_clipboard_scope unit target]
          exact known
      | files =>
          rw [Picture.source_run_files_scope unit target, opacity]
          exact invariant.picture context.scope unit drawn known

/-- A step that may not render leaves the queue of renders as it is. -/
theorem raster_eq (still : ¬ renders) {step : Compile α β}
    (composed : Composed draws builds renders declares step) :
    ∀ context : Context α, (step.run context).2.raster = context.raster := by
  induction composed with
  | pure value => exact fun _ => rfl
  | bind _ _ ihFirst ihSecond => exact fun context => (ihSecond _ _).trans (ihFirst context)
  | get _ _ ihEach => exact fun context => ihEach context context
  | note entries => exact fun _ => rfl
  | addDirective _ => exact fun _ => rfl
  | addFont family => exact fun _ => rfl
  | addParam param _ =>
      intro context
      rw [Compile.addParam, run_get_bind]
      split
      · rfl
      · split <;> rfl
  | addMethod _ body _ ihRest =>
      intro context
      refine (ihRest context.settings _).trans ?_
      change ((Compile.addMethod _ body).run context).2.raster = _
      rw [Compile.addMethod, run_get_bind]
      split <;> rfl
  | addRender layer allowed => exact absurd allowed still
  | @source unit drawn =>
      intro context
      rw [Picture.source, run_get_bind]
      cases context.target <;> rfl

/-- Nothing is made a constant for the clipboard. -/
theorem pictures_eq_of_clipboard {step : Compile α β}
    (composed : Composed draws builds renders declares step) :
    ∀ context : Context α, context.target = .clipboard →
      (step.run context).2.scope.pictures = context.scope.pictures := by
  induction composed with
  | pure value => exact fun _ _ => rfl
  | @bind _ _ step _ first _ ihFirst ihSecond =>
      intro context clipboard
      have still : (step.run context).2.target = .clipboard :=
        (first.framed.target_eq context).trans clipboard
      exact (ihSecond _ _ still).trans (ihFirst context clipboard)
  | get _ _ ihEach => exact fun context clipboard => ihEach context context clipboard
  | note entries => exact fun _ _ => rfl
  | addDirective _ => exact fun _ _ => rfl
  | addFont family => exact fun _ _ => rfl
  | addParam param _ =>
      intro context _
      rcases addParam_run_scope param context with ⟨added, _⟩ | ⟨same, _⟩
      · rw [added]
      · rw [same]
  | @addMethod _ layer _ body _ _ ihRest =>
      intro context clipboard
      let name := layer.methodName context.settings.normalizeNameCase
      have framed : Framed (Compile.addMethod name body : Compile α Unit) := addMethod_framed _ _
      refine (ihRest context.settings _ ((framed.target_eq context).trans clipboard)).trans ?_
      rw [addMethod_run_scope]
  | addRender layer _ => exact fun _ _ => rfl
  | @source unit drawn =>
      intro context clipboard
      rw [Picture.source_run_clipboard_scope unit clipboard]

end Compile.Composed

/-- Every name in some tables is in others too. -/
structure WidgetScope.Within (earlier later : WidgetScope) : Prop where
  params : earlier.params.keys ⊆ later.params.keys
  methods : earlier.methods.keys ⊆ later.methods.keys
  pictures : earlier.pictures.keys ⊆ later.pictures.keys

namespace WidgetScope

theorem Within.refl (scope : WidgetScope) : scope.Within scope :=
  ⟨List.Subset.refl _, List.Subset.refl _, List.Subset.refl _⟩

section

variable [Scalar α] (opacityOf : Markup.OpacityOf α) (normalize : Bool)
  (draws : ShapeUnit α → Prop) (builds : LayerInfo α → Prop) (declares : Prop)

theorem isKept_within (earlier : WidgetScope) :
    IsKept opacityOf normalize draws builds declares earlier.Within where
  directive := fun _ _ _ within => ⟨within.params, within.methods, within.pictures⟩
  param := by
    intro scope param _ _ within
    refine ⟨fun name member => ?_, within.methods, within.pictures⟩
    rw [Table.keys, List.map_append]
    exact List.mem_append_left _ (within.params member)
  method := fun _ _ _ _ within => ⟨within.params,
    fun _ member => Table.mem_keys_insert.mpr (Or.inr (within.methods member)), within.pictures⟩
  picture := fun _ _ _ within => ⟨within.params, within.methods,
    fun _ member => Table.mem_keys_insert.mpr (Or.inr (within.pictures member))⟩

/-- All pictures beyond some earlier ones are those of some units. -/
def PicturesFrom (earlier : Table String) (scope : WidgetScope) : Prop :=
  ∀ entry ∈ scope.pictures,
    entry ∈ earlier ∨ ∃ unit, draws unit ∧ entry = unit.constant opacityOf

theorem isKept_picturesFrom (earlier : Table String) :
    IsKept opacityOf normalize draws builds declares (PicturesFrom opacityOf draws earlier) where
  directive := fun _ _ _ known => known
  param := fun _ _ _ _ known => known
  method := fun _ _ _ _ known => known
  picture := by
    intro scope unit drawn known entry member
    rcases Table.mem_of_mem_insert member with new | old
    · exact Or.inr ⟨unit, drawn, new⟩
    · exact known entry old

/-- All methods beyond some earlier ones are those of some layers. -/
def MethodsFrom (earlier : Table String) (scope : WidgetScope) : Prop :=
  ∀ name ∈ scope.methods.keys,
    name ∈ earlier.keys ∨ ∃ layer, builds layer ∧ name = layer.methodName normalize

theorem isKept_methodsFrom (earlier : Table String) :
    IsKept opacityOf normalize draws builds declares (MethodsFrom normalize builds earlier) where
  directive := fun _ _ _ known => known
  param := fun _ _ _ _ known => known
  method := by
    intro scope layer body built known name member
    rcases Table.mem_keys_insert.mp member with new | old
    · exact Or.inr ⟨layer, built, new⟩
    · exact known name old
  picture := fun _ _ _ known => known

theorem isKept_params (still : ¬ declares) (earlier : Table Parameter) :
    IsKept opacityOf normalize draws builds declares (fun scope => scope.params = earlier) where
  directive := fun _ _ _ same => same
  param := fun _ _ allowed => absurd allowed still
  method := fun _ _ _ _ same => same
  picture := fun _ _ _ same => same

/-- No name is entered twice. -/
structure IsDistinct (scope : WidgetScope) : Prop where
  params : scope.params.keys.Nodup
  methods : scope.methods.keys.Nodup

theorem isKept_isDistinct : IsKept opacityOf normalize draws builds declares IsDistinct where
  directive := fun _ _ _ distinct => ⟨distinct.params, distinct.methods⟩
  param := by
    intro scope param _ fresh distinct
    refine ⟨?_, distinct.methods⟩
    have unknown : param.name ∉ scope.params.keys := by
      intro known
      obtain ⟨existing, found⟩ := Table.exists_find?_of_mem_keys known
      rw [fresh] at found
      cases found
    rw [Table.keys, List.map_append]
    refine List.nodup_append.mpr ⟨distinct.params, List.pairwise_singleton _ _, ?_⟩
    intro one old other new same
    rw [same, List.mem_singleton.mp new] at old
    exact unknown old
  method := fun _ _ _ _ distinct => ⟨distinct.params, Table.nodup_keys_insert distinct.methods⟩
  picture := fun _ _ _ distinct => ⟨distinct.params, distinct.methods⟩

end

end WidgetScope

namespace Compile.Composed

variable {β : Type} [Scalar α] {draws : ShapeUnit α → Prop} {builds : LayerInfo α → Prop}
  {renders declares : Prop} {step : Compile α β}

/-- Nothing that is in the tables of a widget is taken out of them. -/
theorem scope_within (composed : Composed draws builds renders declares step) (context : Context α) :
    context.scope.Within (step.run context).2.scope :=
  composed.keeps_scope (WidgetScope.isKept_within _ _ _ _ _ context.scope) context rfl rfl
    (WidgetScope.Within.refl context.scope)

/-- New pictures are those of the units that are drawn. -/
theorem picturesFrom (composed : Composed draws builds renders declares step) (context : Context α) :
    (step.run context).2.scope.PicturesFrom context.index.inheritedOpacity draws
      context.scope.pictures :=
  composed.keeps_scope (WidgetScope.isKept_picturesFrom _ _ _ _ _ context.scope.pictures) context
    rfl rfl fun _ known => Or.inl known

/-- New methods are those of the layers whose methods are built. -/
theorem methodsFrom (composed : Composed draws builds renders declares step) (context : Context α) :
    (step.run context).2.scope.MethodsFrom context.settings.normalizeNameCase builds
      context.scope.methods :=
  composed.keeps_scope (WidgetScope.isKept_methodsFrom _ _ _ _ _ context.scope.methods) context
    rfl rfl fun _ known => Or.inl known

/-- A step that may not declare parameters leaves them as they are. -/
theorem params_eq (still : ¬ declares) (composed : Composed draws builds renders declares step)
    (context : Context α) : (step.run context).2.scope.params = context.scope.params :=
  composed.keeps_scope (WidgetScope.isKept_params _ _ _ _ _ still _) context rfl rfl rfl

end Compile.Composed

end DesignExport
