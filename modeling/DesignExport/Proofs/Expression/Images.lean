import DesignExport.Export.Run
import DesignExport.Expression.Node
import DesignExport.Number.Exact
import DesignExport.Proofs.Dart.Literals
import DesignExport.Proofs.Export.Trees
import DesignExport.Proofs.Expression.Stated
import DesignExport.Proofs.Text.Plain
import DesignExport.Proofs.Text.Search
set_option autoImplicit false

/-! Images from the assets of a project. The path of an image is put between quotes as it is.
It is a literal of its own exactly if all that it is made of could stand in a literal, and not
all of that has been cleared of other signs. -/

namespace DesignExport

open DesignExport.Dart (IsLiteralOf IsQuotable quoted)

/-! ### Signs that literals read in another way -/

namespace Dart

/-- What ends a literal or its line, or begins an escape or an interpolation. -/
def literalSigns : List Char :=
  ['\'', '\\', '$', '\n', '\r']

theorem isQuotable_iff {text : String} :
    IsQuotable text ↔ ∀ sign ∈ literalSigns, sign ∉ text.toList := by
  have single (char : Char) : isQuotableChar char = true ↔ char ∉ literalSigns := by
    simp [isQuotableChar, isLineEnd, literalSigns, and_assoc]
  constructor
  · exact fun quotable sign isSign member => (single sign).mp (quotable sign member) isSign
  · exact fun without char member =>
      (single char).mpr fun isSign => without char isSign member

theorem isSign_of_mem_literalSigns : ∀ sign ∈ literalSigns,
    Text.isSign sign = true ∧ sign ≠ '-' ∧ sign ≠ '_' ∧ sign ≠ ' ' := by
  have each : literalSigns.all (fun sign =>
      Text.isSign sign && (sign != '-' && (sign != '_' && sign != ' '))) = true := by
    decide
  intro sign member
  simpa using List.all_eq_true.mp each sign member

theorem isQuotable_append_iff {front back : String} :
    IsQuotable (front ++ back) ↔ IsQuotable front ∧ IsQuotable back := by
  constructor
  · intro both
    unfold IsQuotable Text.Every at both
    rw [String.toList_append] at both
    exact List.forall_mem_append.mp both
  · exact fun ⟨first, second⟩ => first.append second

/-- The words of a name in lower case are no more quotable than the name. -/
theorem isQuotable_snakeCase_iff (name : String) :
    IsQuotable (Text.snakeCase name) ↔ IsQuotable name := by
  rw [isQuotable_iff, isQuotable_iff]
  refine forall₂_congr fun sign member => not_congr ?_
  obtain ⟨isSign, other⟩ := isSign_of_mem_literalSigns sign member
  exact Text.mem_snakeCase_iff isSign other name

end Dart

theorem AssetImage.isQuotable_path_iff (name : String) :
    IsQuotable (path name) ↔ IsQuotable name := by
  have folder : IsQuotable "assets/images/" := by decide
  have suffix : IsQuotable ".png" := by decide
  rw [path, Dart.isQuotable_append_iff, Dart.isQuotable_append_iff]
  exact ⟨fun whole => whole.1.2, fun quotable => ⟨⟨folder, quotable⟩, suffix⟩⟩

namespace RasterQueue

/-- The folder of a widget has the signs of its name but for the line ends, which are blank. -/
theorem isQuotable_folderOf_iff (widget : String) : IsQuotable (folderOf widget) ↔
    '\'' ∉ widget.toList ∧ '\\' ∉ widget.toList ∧ '$' ∉ widget.toList := by
  have folders : IsQuotable "assets/images/" := by decide
  have same : folderOf widget =
      "assets/images/" ++ String.ofList (Text.withoutBlanks (Text.lower widget.toList)) := rfl
  have kept {sign : Char} (isSign : Text.isSign sign = true) :
      sign ∈ (String.ofList (Text.withoutBlanks (Text.lower widget.toList))).toList ↔
        sign ∈ widget.toList ∧ Text.isBlank sign = false := by
    rw [String.toList_ofList, Text.withoutBlanks, List.mem_filter, Text.mem_lower_iff isSign,
      Bool.not_eq_true']
  rw [same, Dart.isQuotable_append_iff, and_iff_right folders, Dart.isQuotable_iff]
  constructor
  · intro without
    have absent {sign : Char} (member : sign ∈ Dart.literalSigns)
        (isVisible : Text.isBlank sign = false) : sign ∉ widget.toList := by
      have isSign := (Dart.isSign_of_mem_literalSigns sign member).1
      exact fun inside => without sign member ((kept isSign).mpr ⟨inside, isVisible⟩)
    exact ⟨absent (by decide) rfl, absent (by decide) rfl, absent (by decide) rfl⟩
  · rintro ⟨quote, backslash, dollar⟩ sign member inside
    obtain ⟨named, isVisible⟩ := (kept (Dart.isSign_of_mem_literalSigns sign member).1).mp inside
    simp only [Dart.literalSigns, List.mem_cons, List.not_mem_nil, or_false] at member
    rcases member with same | same | same | same | same
    · exact quote (same ▸ named)
    · exact backslash (same ▸ named)
    · exact dollar (same ▸ named)
    all_goals
      rw [same] at isVisible
      exact absurd isVisible (by decide)

variable {α : Type} [Scalar α]

/-- An image of a widget is in the folder of the widget, and with a name that is in use the guid
of the layer stands in its path as it is. -/
theorem isQuotable_add_iff (queue : RasterQueue α) (layer : LayerInfo α) :
    IsQuotable (queue.add layer).2 ↔ IsQuotable queue.folder ∧
      (imageName layer.name ∈ queue.names → IsQuotable layer.guid) := by
  have slash : IsQuotable "/" := by decide
  have suffix : IsQuotable ".png" := by decide
  have joint : IsQuotable "_" := by decide
  have name := isQuotable_imageName layer.name
  change IsQuotable (queue.folder ++ "/" ++ (if queue.names.contains (imageName layer.name) then
    imageName layer.name ++ "_" ++ layer.guid else imageName layer.name) ++ ".png") ↔ _
  rw [Dart.isQuotable_append_iff, and_iff_left suffix, Dart.isQuotable_append_iff,
    Dart.isQuotable_append_iff, and_iff_left slash]
  refine and_congr_right fun _ => ?_
  by_cases used : imageName layer.name ∈ queue.names
  · rw [if_pos (List.contains_iff_mem.mpr used), Dart.isQuotable_append_iff,
      and_iff_right (name.append joint)]
    exact ⟨fun quotable _ => quotable, fun quotable => quotable used⟩
  · rw [if_neg fun known => used (List.contains_iff_mem.mp known)]
    exact iff_of_true name fun known => absurd known used

end RasterQueue

/-! ### The images of nodes -/

variable {α : Type}

namespace AssetImage

variable (layer : LayerInfo α) (settings : Settings)

/-- The name of an image that is mapped or stored with the layer. -/
def givenName? : Option String :=
  (mappedName? layer settings).or (layer.textProperty? .imageFillName)

def fillName : String :=
  (givenName? layer settings).getD (Text.snakeCase (Text.trim layer.name))

/-- What the name of an image is made of. -/
def fillSource : String :=
  (givenName? layer settings).getD (Text.trim layer.name)

theorem isQuotable_fillName_iff :
    IsQuotable (fillName layer settings) ↔ IsQuotable (fillSource layer settings) := by
  unfold fillName fillSource
  cases givenName? layer settings with
  | none =>
      rw [Option.getD_none, Option.getD_none]
      exact Dart.isQuotable_snakeCase_iff (Text.trim layer.name)
  | some name => rw [Option.getD_some, Option.getD_some]

theorem write_eq (path : String) : write path = "AssetImage(" ++ quoted path ++ ")" := by
  rw [← String.toList_inj]
  simp [write, quoted]

/-- Looking for the name of an image may record a warning and leaves the widget alone. -/
theorem name_run (context : Context α) :
    ((name layer).run context).1 = fillName layer context.settings ∧
      ((name layer).run context).2.scope = context.scope := by
  have asked : (Compile.settings : Compile α Settings).run context = (context.settings, context) := rfl
  rw [name, Compile.run_bind, asked, fillName, givenName?]
  dsimp only
  split
  case h_1 given found =>
    rw [found]
    exact ⟨rfl, rfl⟩
  case h_2 none =>
    rw [none]
    exact ⟨rfl, rfl⟩

theorem ofFill_run (context : Context α) : ((ofFill layer).run context).1 =
    "const " ++ write (path (fillName layer context.settings)) := by
  rw [ofFill, Compile.run_bind, (name_run layer context).1]
  rfl

theorem ofFill_run_scope (context : Context α) :
    ((ofFill layer).run context).2.scope = context.scope :=
  (name_run layer context).2

end AssetImage

/-- An image from the assets, and the texts of a design that its path is made of. -/
structure ShownAsset where
  path : String
  sources : List String
deriving DecidableEq

/-- The image of a layer's fill. -/
def AssetImage.ofLayer (layer : LayerInfo α) (settings : Settings) : ShownAsset :=
  ⟨path (fillName layer settings), [fillSource layer settings]⟩

variable [Scalar α]

omit [Scalar α] in
theorem AssetImage.isQuotable_ofLayer_iff (layer : LayerInfo α) (settings : Settings) :
    IsQuotable (ofLayer layer settings).path ↔
      ∀ source ∈ (ofLayer layer settings).sources, IsQuotable source := by
  rw [ofLayer, isQuotable_path_iff, isQuotable_fillName_iff, List.forall_mem_singleton]

/-- The image that the code of a node shows: that of a fill, unless a parameter stands for it,
or the rendered image of a group. -/
def NodeInfo.shownAsset? (node : NodeInfo α) (context : Context α) : Option ShownAsset :=
  match node.kind with
  | .box =>
      match node.layer.activeFill?, node.params.fill with
      | some (.image _), none => some (AssetImage.ofLayer node.layer context.settings)
      | _, _ => none
  | .group _ =>
      if node.layer.isMarkedForExport then
        some ⟨(context.raster.add node.layer).2, context.raster.folder ::
          if RasterQueue.imageName node.layer.name ∈ context.raster.names then [node.layer.guid]
          else []⟩
      else none
  | .widgetRoot | .shape _ | .text => none

namespace Box

/-- The opacity of a box changes nothing. -/
theorem opacity_run_snd (layer : LayerInfo α) (context : Context α) :
    ((opacity layer).run context).2 = context := by
  unfold opacity
  rw [Compile.run_bind]
  split <;> rfl

section Filled

variable {node : NodeInfo α} {image : ImageFill α}
  (active : node.layer.activeFill? = some (.image image)) (own : node.params.fill = none)
  (context : Context α)

include active own

theorem filling_run (opacity : α) : ((filling node opacity).run context).1 =
    .image (decorationImage ("const " ++ AssetImage.write (AssetImage.path
      (AssetImage.fillName node.layer context.settings))) image.scale opacity) := by
  unfold filling
  rw [active]
  dsimp only
  rw [own]
  dsimp only
  rw [Compile.run_bind, AssetImage.ofFill_run]
  rfl

omit active own in
theorem isInfix_decorationImage (source : String) (scale : ImageScale) (opacity : α) :
    source.toList <:+: (decorationImage source scale opacity).toList := by
  unfold decorationImage
  simp only [String.append_assoc]
  exact Text.isInfix_behind _ source _

/-- The image of a fill is in the decoration of its box. -/
theorem isInfix_decoration (unit : String) :
    (AssetImage.write (AssetImage.path (AssetImage.fillName node.layer context.settings))).toList <:+:
      ((decoration node unit).run context).1.toList := by
  let source := AssetImage.write (AssetImage.path (AssetImage.fillName node.layer context.settings))
  let image := decorationImage ("const " ++ source) image.scale ((opacity node.layer).run context).1
  obtain ⟨extras, written⟩ : ∃ extras, ((decoration node unit).run context).1 =
      "decoration: BoxDecoration(" ++ (Filling.image image).write ++ extras ++ "), " := by
    rw [decoration, Compile.run_bind, Compile.run_bind, opacity_run_snd, filling_run active own]
    dsimp only
    rw [Compile.run_bind, show (Filling.image image).isPlain = false from rfl, Bool.and_false,
      if_neg Bool.false_ne_true]
    exact ⟨_, rfl⟩
  have shown : source.toList <:+: image.toList := by
    refine List.IsInfix.trans ?_ (isInfix_decorationImage ("const " ++ source) _ _)
    rw [String.toList_append]
    exact (List.suffix_append _ _).isInfix
  have filled : image.toList <:+: (Filling.image image).write.toList := Text.isInfix_between _ image _
  rw [written]
  simp only [String.append_assoc]
  exact (shown.trans filled).trans (Text.isInfix_behind _ _ _)

end Filled

end Box

namespace NodeInfo

variable {node : NodeInfo α} {context : Context α} {asset : ShownAsset}
  (shows : node.shownAsset? context = some asset)

include shows

/-- The code of a node shows its image. -/
theorem isInfix_writeBody (children : List (Child α)) :
    (AssetImage.write asset.path).toList <:+:
      ((writeBody node children).run context).1.1.toList := by
  unfold shownAsset? at shows
  split at shows
  case h_1 box =>
    split at shows
    case h_1 active own =>
      cases shows
      have sized : node.isSized = true := by rw [isSized, box]
      rw [(writeBody_run sized children context).1]
      simp only [ownCode, box, String.append_assoc]
      refine (Box.isInfix_decoration active own context context.settings.widthUnit).trans ?_
      rw [← String.append_assoc]
      exact Text.isInfix_behind _ _ _
    case h_2 => cases shows
  case h_2 group =>
    split at shows
    case isTrue marked =>
      cases shows
      have sized : node.isSized = true := by rw [isSized, group]
      rw [(writeBody_run sized children context).1]
      simp only [ownCode, group, if_pos marked]
      exact Text.isInfix_between _ _ _
    case isFalse => cases shows
  all_goals cases shows

theorem isQuotable_path_iff :
    IsQuotable asset.path ↔ ∀ source ∈ asset.sources, IsQuotable source := by
  unfold shownAsset? at shows
  split at shows
  case h_1 =>
    split at shows
    case h_1 =>
      cases shows
      exact AssetImage.isQuotable_ofLayer_iff node.layer context.settings
    case h_2 => cases shows
  case h_2 =>
    split at shows
    case isTrue =>
      cases shows
      rw [RasterQueue.isQuotable_add_iff, List.forall_mem_cons]
      refine and_congr_right fun _ => ?_
      split
      case isTrue used => rw [List.forall_mem_singleton, forall_prop_of_true used]
      case isFalse fresh =>
        exact iff_of_true (fun used => absurd used fresh) fun _ absent => absurd absent List.not_mem_nil
    case isFalse => cases shows
  all_goals cases shows

end NodeInfo

/-! ### The images of parameters -/

/-- A parameter for the fill of a box has the image of the layer as its default. -/
theorem RoleParams.find?_ofBox {layer : LayerInfo α} {image : ImageFill α} {raw : String}
    {context : Context α} (active : layer.activeFill? = some (.image image))
    (named : layer.textProperty? .imageParamName = some raw)
    (fresh : Table.find? (Naming.identifier raw false) context.scope.params = none) :
    Table.find? (Naming.identifier raw false) ((ofBox layer).run context).2.scope.params =
      some ⟨Naming.identifier raw false, .imageProvider, some ("const " ++
        AssetImage.write (AssetImage.path (AssetImage.fillName layer context.settings))), false⟩ := by
  have kept := AssetImage.ofFill_run_scope layer context
  let name := Naming.identifier raw false
  let param : Parameter :=
    ⟨name, .imageProvider, some ((AssetImage.ofFill layer).run context).1, false⟩
  have registered : ((ofBox layer).run context).2.scope =
      ((Compile.addParam param).run ((AssetImage.ofFill layer).run context).2).2.scope := by
    have asked : (layer.textProperty? .imageParamName).isSome = true := by rw [named]; rfl
    unfold ofBox
    rw [active]
    dsimp only
    rw [if_pos asked, Compile.run_bind, expose, named]
    rfl
  have unknown : name ∉ context.scope.params.keys := by
    intro known
    obtain ⟨_, found⟩ := Table.exists_find?_of_mem_keys known
    rw [fresh] at found
    cases found
  rw [registered]
  rcases Compile.addParam_run_scope param ((AssetImage.ofFill layer).run context).2 with
    ⟨added, -⟩ | ⟨-, _, found⟩
  · rw [added, kept, ← AssetImage.ofFill_run]
    dsimp only
    rw [← Table.insert_of_not_mem_keys unknown]
    exact Table.find?_insert_self _ _ _
  · rw [kept] at found
    exact absurd (found.symm.trans fresh) (Option.some_ne_none _)

/-- Code that shows an image from the assets: that of a node, or the argument for a parameter
that a box has its image from. -/
inductive ShowsAsset (context : Context α) : ShownAsset → String → Prop where
  | node {node : NodeInfo α} {asset : ShownAsset} (shows : node.shownAsset? context = some asset)
      (children : List (Child α)) :
      ShowsAsset context asset ((NodeInfo.writeBody node children).run context).1.1
  | parameter {layer : LayerInfo α} {image : ImageFill α} {raw : String} {param : Parameter}
      (active : layer.activeFill? = some (.image image))
      (named : layer.textProperty? .imageParamName = some raw)
      (fresh : Table.find? (Naming.identifier raw false) context.scope.params = none)
      (entered : Table.find? (Naming.identifier raw false)
        ((RoleParams.ofBox layer).run context).2.scope.params = some param) (nullSafe : Bool) :
      ShowsAsset context (AssetImage.ofLayer layer context.settings)
        (SourceFile.constructorArgument nullSafe param)

namespace ShowsAsset

variable {context : Context α} {asset : ShownAsset} {code : String}
  (shows : ShowsAsset context asset code)

include shows

theorem isInfix_code : (AssetImage.write asset.path).toList <:+: code.toList := by
  cases shows with
  | node shows children => exact NodeInfo.isInfix_writeBody shows children
  | parameter active named fresh entered nullSafe =>
      rw [RoleParams.find?_ofBox active named fresh] at entered
      cases entered
      rw [SourceFile.constructorArgument, if_neg Bool.false_ne_true]
      simp only [String.toList_append]
      exact ((List.suffix_append _ _).trans (List.suffix_append _ _)).isInfix

theorem isQuotable_path_iff : IsQuotable asset.path ↔ ∀ source ∈ asset.sources, IsQuotable source := by
  cases shows with
  | node shows => exact NodeInfo.isQuotable_path_iff shows
  | parameter => exact AssetImage.isQuotable_ofLayer_iff _ _

/-- The path of an image in code that shows it is one literal, whatever stands behind it,
exactly if a literal can hold all that the path is made of: the mapped name, the stored name
or the name of the layer for the image of a fill, the folder of the widget and the guid of the
layer for a rendered image. The folder of a widget is harmless if the name of the widget is. -/
theorem assetImage_isLiteral_iff :
    ("AssetImage(" ++ quoted asset.path ++ ")").toList <:+: code.toList ∧
      (IsLiteralOf (quoted asset.path) asset.path ↔ ∀ source ∈ asset.sources, IsQuotable source) ∧
      ∀ widget, context.raster.folder = RasterQueue.folderOf widget →
        (IsQuotable context.raster.folder ↔
          '\'' ∉ widget.toList ∧ '\\' ∉ widget.toList ∧ '$' ∉ widget.toList) := by
  refine ⟨?_, ?_, fun widget folder => ?_⟩
  · rw [← AssetImage.write_eq]
    exact shows.isInfix_code
  · rw [Dart.isLiteralOf_quoted_iff]
    exact shows.isQuotable_path_iff
  · rw [folder]
    exact RasterQueue.isQuotable_folderOf_iff widget

end ShowsAsset

/-! ### A photo -/

/-- A rectangle that is filled with an image which no name is known for. -/
def photo (name : String) : Layer Rat :=
  ⟨{ LayerInfo.usual "photo" name (.rectangle .none) with
      hasDefaultName := true
      localBounds := ⟨0, 0, 50, 50⟩
      fill := some (.image ⟨none, .cover, 0, 0⟩) }, []⟩

def photoDocument (name : String) : Document Rat :=
  ⟨[], [⟨{ LayerInfo.usual "home" "Home" .artboard with
      hasDefaultName := true, localBounds := ⟨0, 0, 375, 812⟩ }, [photo name]⟩], ⟨[], []⟩⟩

def photoStart (name : String) : Context Rat :=
  Context.start (Index.ofDocument (photoDocument name)) {} .clipboard

/-- The path of a photo with a harmless name is a literal. -/
theorem ShowsAsset.assetImage_isLiteral_photo :
    ∃ node, ((snippetTree (photo "My photo")).run (photoStart "My photo")).1 = some node ∧
      node.shownAsset? (photoStart "My photo") = some ⟨"assets/images/my_photo.png", ["My photo"]⟩ ∧
      IsLiteralOf "'assets/images/my_photo.png'" "assets/images/my_photo.png" := by
  have facts : ((snippetTree (photo "My photo")).run (photoStart "My photo")).1.map
      (fun node => node.shownAsset? (photoStart "My photo")) =
        some (some ⟨"assets/images/my_photo.png", ["My photo"]⟩) := by
    decide +kernel
  obtain ⟨node, copied, shows⟩ := Option.map_eq_some_iff.mp facts
  exact ⟨node, copied, shows,
    (ShowsAsset.node shows []).assetImage_isLiteral_iff.2.1.mpr (by decide)⟩

/-- The apostrophe in the name of a layer ends the literal of its image. -/
theorem quote_ends_assetImage :
    (((snippetTree (photo "Bob's photo")).run (photoStart "Bob's photo")).1.bind
      fun node => node.shownAsset? (photoStart "Bob's photo")) =
        some ⟨"assets/images/bob's_photo.png", ["Bob's photo"]⟩ ∧
    ((photoDocument "Bob's photo").copySelected {} "photo").toOption.map (·.code) =
      some ("Container(decoration: BoxDecoration(image: DecorationImage(image: const AssetImage(" ++
        "'assets/images/bob's_photo.png'), fit: BoxFit.cover, ), ), )") ∧
    Dart.readLiteral? "'assets/images/bob's_photo.png')".toList =
      some ("assets/images/bob".toList, "s_photo.png')".toList) ∧
    ¬IsLiteralOf "'assets/images/bob's_photo.png'" "assets/images/bob's_photo.png" := by
  refine ⟨by decide +kernel, by decide +kernel, by decide, ?_⟩
  have unfit : ¬IsQuotable "assets/images/bob's_photo.png" := by decide
  exact fun isLiteral => unfit ((Dart.isLiteralOf_quoted_iff _).mp isLiteral)

end DesignExport
