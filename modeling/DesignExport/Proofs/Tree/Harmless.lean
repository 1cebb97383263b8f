import DesignExport.Proofs.Expression.Arguments
import DesignExport.Proofs.Tree.Kinds
import DesignExport.Proofs.Tree.Throughout
set_option autoImplicit false

/-! Documents whose names do no harm where the code holds them as they are: in comments,
in the paths of images and in numbers with a unit. All names that the nodes of such
documents bring along are names of code. -/

namespace DesignExport

section Harmless

open Compile (IsSteady Keeps)
open DesignExport.Dart (IsOneLine IsQuotable IsWidthUnit)
open DesignExport.Naming (IsIdentifier)

variable {α : Type}

/-- The asset for the image fill of a layer, unless the settings know another one. -/
def AssetImage.ownName (layer : LayerInfo α) : String :=
  (layer.textProperty? .imageFillName).getD (Text.snakeCase (Text.trim layer.name))

/-- The name of a layer stays in its comment, the names of its images stay in their
literals, and it has no template. -/
structure LayerInfo.IsHarmless (layer : LayerInfo α) : Prop where
  name : IsOneLine layer.name
  guid : IsQuotable layer.guid
  image : ∀ image, layer.activeFill? = some (.image image) → IsQuotable (AssetImage.ownName layer)
  mode : layer.textProperty? .exportMode ≠ some ExportMode.custom.name

def Document.IsHarmless (document : Document α) : Prop :=
  ∀ layer ∈ Layer.flattenAll document.children, layer.toLayerInfo.IsHarmless

structure Settings.IsHarmless (settings : Settings) : Prop where
  widgetPrefix : settings.widgetPrefix = "" ∨ IsIdentifier settings.widgetPrefix
  widthUnit : IsWidthUnit settings.widthUnit
  images : ∀ entry ∈ settings.imageMap, IsQuotable entry.2

/-- What the context of a compile offers to code does no harm. -/
structure Context.IsHarmless (context : Context α) : Prop where
  widthUnit : IsWidthUnit context.settings.widthUnit
  image : ∀ key name, context.settings.image? key = some name → IsQuotable name
  folder : IsQuotable context.raster.folder
  widget : ∀ guid name, context.widgetName? guid = some name → IsIdentifier name

/-- The invariants that the compile of a harmless document keeps. -/
structure Context.IsHarmlessInvariant (kept : Context α → Prop) : Prop where
  steady : IsSteady kept
  isHarmless : ∀ context, kept context → context.IsHarmless

/-! ### Nodes -/

/-- Widgets have names of code, no identifier of a picture is known before the picture is
written, and a text stands for a layer with a text. -/
def NodeKind.IsHarmless (layer : LayerInfo α) : NodeKind α → Prop
  | .group (.instanceOf widget) => IsIdentifier widget
  | .shape unit => unit.knownId = none
  | .text => ∃ block, layer.kind = .text block
  | _ => True

def Decorator.IsHarmless : Decorator α → Prop
  | .tap callback => IsIdentifier callback
  | .pageLink widget _ => IsIdentifier widget
  | .blur _ => True

structure RoleParams.IsHarmless (params : RoleParams) : Prop where
  text : ∀ name ∈ params.text, IsIdentifier name
  fill : ∀ name ∈ params.fill, IsIdentifier name
  builder : ∀ name ∈ params.builder, IsIdentifier name

structure NodeInfo.IsHarmless (node : NodeInfo α) : Prop where
  layer : node.layer.IsHarmless
  kind : node.kind.IsHarmless node.layer
  decorators : ∀ decorator ∈ node.decorators, decorator.IsHarmless
  mode : node.mode ≠ .custom
  params : node.params.IsHarmless

theorem NodeInfo.isHarmless_keptByShapes : Node.KeptByShapes (NodeInfo.IsHarmless (α := α)) :=
  fun _ _ _ harmless => ⟨harmless.layer, rfl, harmless.decorators, harmless.mode, harmless.params⟩

namespace LayerInfo

theorem isIdentifier_methodName (layer : LayerInfo α) (normalize : Bool) :
    IsIdentifier (layer.methodName normalize) := by
  unfold methodName
  split
  · exact Naming.isIdentifier_identifier _ _
  · have front : IsIdentifier "_build" := rfl
    exact front.append (Naming.isIdentifier_className _ _).every

theorem isIdentifier_builderName (layer : LayerInfo α) (normalize : Bool) :
    IsIdentifier (layer.builderName normalize) := by
  unfold builderName
  split
  · exact Naming.isIdentifier_identifier _ _
  · exact (Naming.isIdentifier_identifier _ _).append (by decide)

end LayerInfo

theorem Compile.settings_keeps {kept : Context α → Prop}
    (invariant : Context.IsHarmlessInvariant kept) :
    Keeps kept Compile.settings (fun settings => IsWidthUnit settings.widthUnit) :=
  Keeps.get fun context known => Keeps.pure (invariant.isHarmless context known).widthUnit

/-! ### Building -/

theorem RoleParams.isHarmless_none : RoleParams.IsHarmless {} :=
  ⟨forall_mem_none, forall_mem_none, forall_mem_none⟩

section Building

variable {kept : Context α → Prop} (invariant : Context.IsHarmlessInvariant kept)

include invariant

theorem ExportMode.ofLayer_keeps {layer : LayerInfo α} (harmless : layer.IsHarmless) :
    Keeps kept (ExportMode.ofLayer layer) (· ≠ .custom) := by
  have usual : ExportMode.inline ≠ .custom := by decide
  unfold ExportMode.ofLayer
  split
  case h_1 => exact Keeps.pure usual
  case h_2 name stored =>
    split
    case h_1 mode known =>
      apply Keeps.pure
      rintro rfl
      unfold ExportMode.ofName? at known
      have found := List.find?_some known
      have same : ExportMode.custom.name = name := of_decide_eq_true found
      rw [← same] at stored
      exact harmless.mode stored
    case h_2 =>
      exact (Compile.warn_keeps invariant.steady _ _).bind fun _ _ => Keeps.pure usual

namespace NodeKind

omit invariant in
theorem Becomes.isHarmless {start : Context α} (safe : start.IsHarmless) {layer : LayerInfo α}
    {kind : NodeKind α} (becomes : kind.Becomes start layer) : kind.IsHarmless layer := by
  cases becomes with
  | instanceOf isComponent named => exact safe.widget _ _ named
  | text isText => exact ⟨_, isText⟩
  | shape => rfl
  | plain | scroll | rectangle | ellipse | unnamed => trivial

theorem ofLayer?_keeps (layer : LayerInfo α) :
    Keeps kept (ofLayer? layer) (fun found => ∀ kind ∈ found, kind.IsHarmless layer) :=
  invariant.steady.keeps (ofLayer?_keeps_becomes · layer) fun start known _ found kind member =>
    (found kind member).isHarmless (invariant.isHarmless start known)

end NodeKind

namespace Decorator

omit invariant in
theorem Decorates.isHarmless {start : Context α} (safe : start.IsHarmless) {layer : LayerInfo α}
    {canBeTapped : Bool} {decorator : Decorator α}
    (decorates : decorator.Decorates start layer canBeTapped) : decorator.IsHarmless := by
  cases decorates with
  | tap => exact Naming.isIdentifier_identifier _ false
  | pageLink named => exact safe.widget _ _ named
  | blur => trivial

theorem collect_keeps (layer : LayerInfo α) (canBeTapped : Bool) :
    Keeps kept (collect layer canBeTapped) (fun found => ∀ decorator ∈ found, decorator.IsHarmless) :=
  invariant.steady.keeps (collect_keeps_decorates · layer canBeTapped) fun start known _ found
    decorator member => (found decorator member).isHarmless (invariant.isHarmless start known)

end Decorator

namespace AssetImage

theorem name_keeps {layer : LayerInfo α} (quotable : IsQuotable (ownName layer)) :
    Keeps kept (name layer) IsQuotable := by
  rw [ownName] at quotable
  refine Keeps.get fun context known => ?_
  split
  case h_1 found chosen =>
    apply Keeps.pure
    rcases Option.or_eq_some_iff.mp chosen with mapped | ⟨_, stored⟩
    · unfold mappedName? at mapped
      split at mapped
      · obtain ⟨file, _, image⟩ := Option.bind_eq_some_iff.mp mapped
        exact (invariant.isHarmless context known).image file found image
      · cases mapped
    · rw [stored] at quotable
      exact quotable
  case h_2 chosen =>
    rw [(Option.or_eq_none_iff.mp chosen).2] at quotable
    exact (Compile.warn_keeps invariant.steady _ _).bind fun _ _ => Keeps.pure quotable

theorem ofFill_keeps {layer : LayerInfo α} (quotable : IsQuotable (ownName layer)) :
    Keeps kept (ofFill layer) Dart.IsValue := by
  refine (name_keeps invariant quotable).bind fun name isQuotable => Keeps.pure ?_
  refine ⟨false, fun pending awaited lacks => ?_⟩
  have word : Dart.Reads "const " ⟨.code, false, pending, awaited, lacks⟩
      (Dart.Scanner.ready awaited lacks) := rfl
  have image := (isCall_write (isQuotable_path isQuotable)).reads false false awaited lacks
  rw [Bool.or_false] at image
  exact word.append image

end AssetImage

namespace RoleParams

theorem expose_keeps (layer : LayerInfo α) (property : Property) (type : DartType)
    (default : String) :
    Keeps kept (expose layer property type default) (fun found => ∀ name ∈ found, IsIdentifier name) := by
  unfold expose
  split
  case h_1 => exact Keeps.pure forall_mem_none
  case h_2 raw stored =>
    refine (Compile.addParam_keeps invariant.steady _).bind fun _ _ => Keeps.pure ?_
    intro name same
    cases same
    exact Naming.isIdentifier_identifier raw false

variable [Scalar α]

theorem ofText_keeps (layer : LayerInfo α) (block : TextBlock α) :
    Keeps kept (ofText layer block) IsHarmless := by
  refine (expose_keeps invariant layer _ _ _).bind fun text textHarmless => ?_
  split
  · refine (expose_keeps invariant layer _ _ _).bind fun fill fillHarmless => Keeps.pure ?_
    exact ⟨textHarmless, fillHarmless, forall_mem_none⟩
  · exact Keeps.pure ⟨textHarmless, forall_mem_none,
      forall_mem_none⟩

theorem ofBox_keeps {layer : LayerInfo α} (harmless : layer.IsHarmless) :
    Keeps kept (ofBox layer) IsHarmless := by
  have filled {fill : Option String} (fillHarmless : ∀ name ∈ fill, IsIdentifier name) :
      IsHarmless { fill := fill } :=
    ⟨forall_mem_none, fillHarmless, forall_mem_none⟩
  unfold ofBox
  split
  · exact (expose_keeps invariant layer _ _ _).bind fun _ named => Keeps.pure (filled named)
  case h_2 image active =>
    refine Keeps.ite (fun _ => ?_) fun _ => Keeps.pure isHarmless_none
    refine (AssetImage.ofFill_keeps invariant (harmless.image image active)).bind fun _ _ => ?_
    exact (expose_keeps invariant layer _ _ _).bind fun _ named => Keeps.pure (filled named)
  · exact Keeps.pure isHarmless_none

theorem register_keeps {layer : LayerInfo α} (harmless : layer.IsHarmless) (kind : NodeKind α)
    (mode : ExportMode) : Keeps kept (register layer kind mode) IsHarmless := by
  refine Keeps.ite (fun _ => ?_) fun _ => ?_
  · refine Keeps.get fun context _ => ?_
    refine (Compile.addParam_keeps invariant.steady _).bind fun _ _ => Keeps.pure ?_
    refine ⟨forall_mem_none, forall_mem_none, ?_⟩
    intro name same
    cases same
    exact layer.isIdentifier_builderName context.settings.normalizeNameCase
  · split
    · exact ofText_keeps invariant layer _
    · exact ofBox_keeps invariant harmless
    · exact Keeps.pure isHarmless_none

end RoleParams

end Building

namespace Node

variable [Scalar α] {kept : Context α → Prop}

mutual

/-- Harmless layers become harmless nodes. -/
theorem build_keeps (invariant : Context.IsHarmlessInvariant kept) : ∀ layer : Layer α,
    (∀ part ∈ layer.flatten, part.toLayerInfo.IsHarmless) →
      Keeps kept (build layer) (fun found => ∀ node ∈ found, node.Throughout NodeInfo.IsHarmless)
  | ⟨layer, children⟩, harmless => by
      rw [Layer.flatten] at harmless
      obtain ⟨own, below⟩ := List.forall_mem_cons.mp harmless
      rw [build]
      refine Keeps.ite (fun _ => Keeps.pure forall_mem_none) fun _ => ?_
      refine (NodeKind.ofLayer?_keeps invariant layer).bind fun found kinds => ?_
      cases found with
      | none => exact Keeps.pure forall_mem_none
      | some kind =>
          refine (ExportMode.ofLayer_keeps invariant own).bind fun mode inlined => ?_
          refine Keeps.get fun context _ => ?_
          refine (Decorator.collect_keeps invariant layer _).bind fun decorators decorated => ?_
          refine Keeps.ite_bind (fun _ => buildAll_keeps invariant children below)
            (fun _ => Keeps.pure fun _ absent => absurd absent List.not_mem_nil) fun nodes built => ?_
          refine (RoleParams.register_keeps invariant own kind mode).bind fun params named => ?_
          apply Keeps.pure
          intro node same
          cases same
          exact throughout_mk.mpr ⟨⟨own, kinds kind rfl, decorated, inlined, named⟩, built⟩

theorem buildAll_keeps (invariant : Context.IsHarmlessInvariant kept) : ∀ layers : List (Layer α),
    (∀ part ∈ Layer.flattenAll layers, part.toLayerInfo.IsHarmless) →
      Keeps kept (buildAll layers) (fun nodes => ∀ node ∈ nodes, node.Throughout NodeInfo.IsHarmless)
  | [], _ => Keeps.pure fun _ absent => absurd absent List.not_mem_nil
  | layer :: rest, harmless => by
      rw [Layer.flattenAll] at harmless
      have first := fun part inside => harmless part (List.mem_append_left _ inside)
      have others := fun part inside => harmless part (List.mem_append_right _ inside)
      rw [buildAll]
      refine (build_keeps invariant layer first).bind fun node built => ?_
      refine (buildAll_keeps invariant rest others).bind fun nodes alsoBuilt => Keeps.pure ?_
      intro other member
      rcases List.mem_append.mp member with here | later
      · exact built other (Option.mem_toList.mp here)
      · exact alsoBuilt other later

end

theorem buildRoot_keeps (invariant : Context.IsHarmlessInvariant kept) (layer : Layer α)
    (harmless : ∀ part ∈ layer.flatten, part.toLayerInfo.IsHarmless) :
    Keeps kept (buildRoot layer) (fun node => node.Throughout NodeInfo.IsHarmless) := by
  obtain ⟨info, children⟩ := layer
  rw [Layer.flatten] at harmless
  obtain ⟨own, below⟩ := List.forall_mem_cons.mp harmless
  refine (buildAll_keeps invariant children below).bind fun nodes built => Keeps.pure ?_
  refine throughout_mk.mpr ⟨⟨own, trivial, ?_, ExportMode.noConfusion, RoleParams.isHarmless_none⟩, built⟩
  exact fun _ absent => absurd absent List.not_mem_nil

end Node

end Harmless

/-! ### Plain names

Names are plain if they have nothing but letters, digits, dots, blanks and underscores. Such
names do no harm wherever the code holds them. -/

open DesignExport.Dart (isOneLine_of_isQuotable isQuotable_of_isPlain isWidthUnit_of_isPlain)
open DesignExport.Naming (IsIdentifier)

variable {α : Type}

/-- The names of a layer and of its image are plain, and it has no template. -/
structure LayerInfo.IsPlain (layer : LayerInfo α) : Prop where
  name : Text.IsPlain layer.name
  guid : Text.IsPlain layer.guid
  image : ∀ name ∈ layer.textProperty? .imageFillName, Text.IsPlain name
  mode : layer.textProperty? .exportMode ≠ some ExportMode.custom.name

instance (layer : LayerInfo α) : Decidable layer.IsPlain :=
  decidable_of_iff (Text.IsPlain layer.name ∧ Text.IsPlain layer.guid ∧
      (∀ name ∈ layer.textProperty? .imageFillName, Text.IsPlain name) ∧
      layer.textProperty? .exportMode ≠ some ExportMode.custom.name)
    ⟨fun ⟨name, guid, image, mode⟩ => ⟨name, guid, image, mode⟩,
      fun plain => ⟨plain.name, plain.guid, plain.image, plain.mode⟩⟩

def Document.IsPlain (document : Document α) : Prop :=
  ∀ layer ∈ Layer.flattenAll document.children, layer.toLayerInfo.IsPlain

instance (document : Document α) : Decidable document.IsPlain :=
  inferInstanceAs (Decidable (∀ layer ∈ Layer.flattenAll document.children, layer.toLayerInfo.IsPlain))

/-- The prefix of class names is empty, or a letter with letters and digits behind it. -/
def Settings.HasPlainPrefix (settings : Settings) : Prop :=
  match settings.widgetPrefix.toList with
  | [] => True
  | first :: rest => first.isAlpha = true ∧ ∀ char ∈ rest, char.isAlphanum = true

structure Settings.IsPlain (settings : Settings) : Prop where
  widgetPrefix : settings.HasPlainPrefix
  widthUnit : Text.IsPlain settings.widthUnit
  images : ∀ entry ∈ settings.imageMap, Text.IsPlain entry.2

theorem LayerInfo.IsPlain.isHarmless {layer : LayerInfo α} (plain : layer.IsPlain) :
    layer.IsHarmless where
  name := isOneLine_of_isQuotable (isQuotable_of_isPlain plain.name)
  guid := isQuotable_of_isPlain plain.guid
  image := by
    intro _ _
    rw [AssetImage.ownName]
    cases stored : layer.textProperty? .imageFillName with
    | some name => exact isQuotable_of_isPlain (plain.image name stored)
    | none => exact isQuotable_of_isPlain (Text.isPlain_snakeCase plain.name.trim)
  mode := plain.mode

theorem Document.IsPlain.isHarmless {document : Document α} (plain : document.IsPlain) :
    document.IsHarmless :=
  fun layer inside => (plain layer inside).isHarmless

theorem Settings.IsPlain.isPrefix {settings : Settings} (plain : settings.IsPlain) :
    settings.widgetPrefix = "" ∨ IsIdentifier settings.widgetPrefix := by
  have letters := plain.widgetPrefix
  rw [HasPlainPrefix] at letters
  have whole : String.ofList settings.widgetPrefix.toList = settings.widgetPrefix :=
    String.ofList_toList
  rw [← whole]
  cases chars : settings.widgetPrefix.toList with
  | nil => exact Or.inl rfl
  | cons first rest =>
      rw [chars] at letters
      exact Or.inr (Naming.isIdentifier_of_letters letters.1 letters.2)

theorem Settings.IsPlain.isHarmless {settings : Settings} (plain : settings.IsPlain) :
    settings.IsHarmless where
  widgetPrefix := plain.isPrefix
  widthUnit := isWidthUnit_of_isPlain plain.widthUnit
  images := fun entry known => isQuotable_of_isPlain (plain.images entry known)

end DesignExport
