import DesignExport.Expression.Box
import DesignExport.Expression.Group
import DesignExport.Expression.Label
import DesignExport.Expression.Picture
import DesignExport.Proofs.Layout.Calls
import DesignExport.Proofs.Table
import DesignExport.Proofs.Tree.Comments
import DesignExport.Proofs.Tree.Harmless
import DesignExport.Tree.Decoration
set_option autoImplicit false

/-! Boxes, texts, pictures and images of harmless nodes are calls without gaps, and stay
calls in decorators and behind comments. -/

namespace DesignExport

open Compile (Keeps)
open DesignExport.Dart
open DesignExport.Dart.Scanner (first done ready wanting)
open DesignExport.Naming (IsIdentifier)

variable {α : Type}

/-! ### Decorators and comments -/

/-- A call of nothing but a name. -/
theorem Naming.IsIdentifier.isCall {name : String} (identifier : IsIdentifier name)
    {arguments : String} (closes : Reads arguments Scanner.named (done false)) :
    IsCall (name ++ arguments) false := by
  have read : Reads name first Scanner.named := by
    unfold Naming.IsIdentifier at identifier
    cases chars : name.toList with
    | nil => rw [chars] at identifier; cases identifier
    | cons char rest =>
        rw [chars] at identifier
        obtain ⟨letter, words⟩ := Bool.and_eq_true_iff.mp identifier
        have tail : ∀ {text : List Char}, text.all isWordChar = true →
            Scanner.named.scan text = some Scanner.named := by
          intro text allowed
          induction text with
          | nil => rfl
          | cons char text ih =>
              obtain ⟨word, others⟩ := Bool.and_eq_true_iff.mp allowed
              rw [Scanner.scan, Scanner.step]
              simp only [Scanner.named, if_pos word]
              exact ih others
        rw [Reads, chars, Scanner.scan, Scanner.step]
        simp only [first, if_pos letter]
        exact tail words
  exact read.append closes

theorem Transition.isWord_constant (transition : Transition α) : IsWord transition.constant := by
  unfold Transition.constant
  dsimp only
  split_ifs
  all_goals decide

theorem Transition.isWord_curve (transition : Transition α) : IsWord transition.curve := by
  have names : ∀ entry ∈ Transition.curves, IsWord entry.2 := by decide
  unfold Transition.curve
  cases found : Table.find? transition.easing Transition.curves with
  | none => decide
  | some name => exact names _ (Table.mem_of_find? found)

section Decorators

variable [Scalar α] [WritesNumerals α] {kept : Context α → Prop}
  (invariant : Context.IsHarmlessInvariant kept)

include invariant

theorem Decorator.apply_keeps {code : String} {lacks : Bool} (call : IsCall code lacks)
    {decorator : Decorator α} (harmless : decorator.IsHarmless) :
    Keeps kept (decorator.apply code) (fun result => IsCall result lacks) := by
  cases decorator with
  | tap callback =>
      have name : IsValue callback := (Naming.IsIdentifier.isWord harmless).isValue
      have opening : Reads "GestureDetector(onTap: () => " first (ready [] false) := rfl
      have tapped := opening.value name "?.call(), child: " (wanting [] false) fun _ => rfl
      exact Keeps.pure (tapped.slot (Or.inr call) ", )" (done lacks) rfl rfl)
  | pageLink widget transition =>
      refine (Compile.addImport_keeps invariant.steady _).bind fun _ _ => Keeps.pure ?_
      have opening : Reads "PageLink(links: [PageLinkInfo(transition: LinkTransition." first
        (ready [')', ']'] false) := rfl
      have appears := opening.value transition.isWord_constant.isValue ", ease: Curves."
        (ready [')', ']'] false) fun _ => rfl
      have eased := appears.value transition.isWord_curve.isValue ", duration: "
        (wanting [')', ']'] false) fun _ => rfl
      have timed := eased.value (Scalar.isValue_fixed transition.duration 2)
        ", pageBuilder: () => " (ready [')', ']'] false) fun _ => rfl
      have built := timed.value (Naming.IsIdentifier.isWord harmless).isValue
        "(), ), ], child: " (wanting [] false) fun _ => rfl
      exact built.slot (Or.inr call) ", )" (done lacks) rfl rfl
  | blur amount =>
      refine (Compile.addImportAs_keeps invariant.steady _ _).bind fun _ _ => Keeps.pure ?_
      have sigma := Scalar.isValue_fixed amount 1
      have opening : Reads "ClipRect(child: BackdropFilter(filter: ui.ImageFilter.blur(sigmaX: "
        first (wanting [')', ')'] false) := rfl
      have across := opening.value sigma ", sigmaY: " (wanting [')', ')'] false) fun _ => rfl
      have down := across.value sigma "), child: " (wanting [')'] false) fun _ => rfl
      exact down.slot (Or.inr call) ", ), )" (done lacks) rfl rfl

theorem Decorator.applyAll_keeps {lacks : Bool} (decorators : List (Decorator α)) :
    (∀ decorator ∈ decorators, decorator.IsHarmless) →
      ∀ {code : String}, IsCall code lacks →
        Keeps kept (Decorator.applyAll code decorators) (fun result => IsCall result lacks) := by
  induction decorators with
  | nil => exact fun _ _ call => Keeps.pure call
  | cons decorator rest ih =>
      intro harmless code call
      obtain ⟨first, others⟩ := List.forall_mem_cons.mp harmless
      exact (Decorator.apply_keeps invariant call first).bind fun _ => ih others

end Decorators

theorem isOneLine_shorten {name : String} (oneLine : IsOneLine name) :
    IsOneLine (Text.shorten (Text.trim name) commentLength) := by
  have ellipsis : IsOneLine "…" := by decide
  unfold Text.shorten
  split
  · exact oneLine.trim
  · refine Text.Every.append (Text.Every.ofList fun char kept => ?_) ellipsis
    exact oneLine.trim char (List.mem_of_mem_take kept)

/-- A comment behind the first parenthesis of a call ends with its line. -/
theorem isCall_layerComment {code : String} {lacks : Bool} (call : IsCall code lacks)
    {layer : LayerInfo α} (oneLine : IsOneLine layer.name) :
    IsCall (layerComment code layer) lacks := by
  obtain ⟨_, _, cut, without, -, -⟩ := Scanner.split_of_scan (Or.inl rfl) call
  have shown : IsOneLine layer.shownName := isOneLine_shorten oneLine
  exact (scan_layerComment cut without shown).trans call

/-! ### Boxes -/

/-- A value under a name, with a comma behind it. -/
theorem isArguments_named {name value : String}
    (opening : ∀ awaited lacks, Reads name (ready awaited lacks) (wanting awaited lacks))
    (isValue : IsValue value) : IsArguments (name ++ value ++ ", ") :=
  fun awaited lacks =>
    (opening awaited lacks).value isValue ", " (ready awaited lacks) fun _ => rfl

namespace Box

/-- A filling with an expression has a value of code. -/
def Filling.HasValue : Filling → Prop
  | .empty => True
  | .color expression | .gradient expression | .image expression => IsValue expression

theorem Filling.isArguments_write {filling : Filling} (valued : filling.HasValue) :
    IsArguments filling.write := by
  cases filling with
  | empty => exact IsArguments.empty
  | color expression => exact isArguments_named (fun _ _ => rfl) valued
  | gradient expression => exact isArguments_named (fun _ _ => rfl) valued
  | image expression => exact isArguments_named (fun _ _ => rfl) valued

variable [Scalar α] [WritesNumerals α]

theorem isValue_decorationImage {source : String} (isValue : IsValue source) (scale : ImageScale)
    (opacity : α) : IsValue (decorationImage source scale opacity) := by
  apply IsCall.isValue
  have fit : IsValue (imageFit scale) := by
    refine IsWord.isValue ?_
    cases scale <;> decide
  have filter : IsArguments (if opacity < 1.0 then
      "colorFilter: ColorFilter.mode(Colors.black.withOpacity(" ++ Scalar.fixed opacity 2 ++
        "), BlendMode.dstIn), " else "") := by
    split
    · intro awaited lacks
      have opening : Reads "colorFilter: ColorFilter.mode(Colors.black.withOpacity("
        (ready awaited lacks) (ready (')' :: ')' :: awaited) lacks) := rfl
      exact opening.value (Scalar.isValue_fixed opacity 2) "), BlendMode.dstIn), "
        (ready awaited lacks) fun _ => rfl
    · exact IsArguments.empty
  have opening : Reads "DecorationImage(image: " first (wanting [] false) := rfl
  have shown := opening.value isValue ", fit: " (wanting [] false) fun _ => rfl
  have fitted := shown.value fit ", " (ready [] false) fun _ => rfl
  exact fitted.arguments filter ")" (done false) rfl

theorem isArguments_rounding (layer : LayerInfo α) {unit : String} (isUnit : IsWidthUnit unit) :
    IsArguments (rounding layer unit) := by
  have opening (awaited : List Char) (lacks : Bool) :
      Reads "borderRadius: " (ready awaited lacks) (wanting awaited lacks) := rfl
  unfold rounding
  split
  · exact isArguments_named opening (IsCall.isValue rfl)
  · split
    case h_1 radius found =>
      exact isArguments_named opening (Paint.isValue_borderRadius isUnit found)
    case h_2 => exact IsArguments.empty
  · exact IsArguments.empty

theorem isArguments_shadow (layer : LayerInfo α) (opacity : α) :
    IsArguments (shadow layer opacity) := by
  unfold shadow
  split
  · exact isArguments_named (fun _ _ => rfl) (Paint.isValue_boxShadow _ opacity)
  · exact IsArguments.empty

theorem isArguments_size (layer : LayerInfo α) {unit : String} (isUnit : IsWidthUnit unit) :
    IsArguments (sizeArguments layer unit) := by
  intro awaited lacks
  have opening : Reads "width: " (ready awaited lacks) (wanting awaited lacks) := rfl
  have wide := opening.value (isValue_dimension isUnit layer.localBounds.width) ", height: "
    (wanting awaited lacks) fun _ => rfl
  exact wide.value (isValue_dimension isUnit layer.localBounds.height) ", "
    (ready awaited lacks) fun _ => rfl

theorem isArguments_margin (layout : Layout α) {unit : String} (isUnit : IsWidthUnit unit) :
    IsArguments (margin layout unit) := by
  unfold margin
  split
  · exact isArguments_named (fun _ _ => rfl) (EdgeInsets.isValue_write isUnit _)
  · exact IsArguments.empty

variable {kept : Context α → Prop} (invariant : Context.IsHarmlessInvariant kept)

include invariant

theorem filling_keeps {node : NodeInfo α} (harmless : node.IsHarmless) (opacity : α) :
    Keeps kept (filling node opacity) Filling.HasValue := by
  have param {name : String} (given : node.params.fill = some name) : IsValue name :=
    (harmless.params.fill name given).isWord.isValue
  unfold filling
  split
  case h_1 => exact Keeps.pure trivial
  case h_2 own active =>
    apply Keeps.pure
    cases given : node.params.fill with
    | none => exact isValue_colorLiteral own opacity
    | some name => exact param given
  case h_3 image active =>
    have shown {source : String} (isValue : IsValue source) :
        Filling.HasValue (.image (decorationImage source image.scale opacity)) :=
      isValue_decorationImage isValue image.scale opacity
    dsimp only
    split
    case h_1 name given => exact Keeps.pure (shown (param given))
    case h_2 =>
      exact (AssetImage.ofFill_keeps invariant (harmless.layer.image image active)).bind fun _ isValue =>
        Keeps.pure (shown isValue)
  case h_4 fill _ _ _ =>
    split
    case h_1 gradient found => exact Keeps.pure (Paint.isValue_gradient found)
    case h_2 =>
      refine (Compile.noting_keeps invariant.steady _).bind fun color same => ?_
      split
      case h_1 expression => exact Keeps.pure (Paint.isValue_solidColor same.symm)
      case h_2 => exact Keeps.pure trivial

theorem border_keeps (layer : LayerInfo α) (opacity : α) {unit : String} (isUnit : IsWidthUnit unit) :
    Keeps kept (border layer opacity unit) IsArguments := by
  unfold border
  split
  case h_1 => exact Keeps.pure IsArguments.empty
  case h_2 stroke active =>
    refine (Compile.noting_keeps invariant.steady _).bind fun text same => Keeps.pure ?_
    rw [same]
    exact isArguments_named (fun _ _ => rfl) (Paint.isValue_border stroke opacity layer isUnit)

omit [WritesNumerals α] in
theorem opacity_keeps (layer : LayerInfo α) : Keeps kept (opacity layer) (fun _ => True) := by
  refine (Compile.inheritedOpacity_keeps invariant.steady layer).bind fun inherited _ => ?_
  split
  · exact Keeps.pure trivial
  · exact Keeps.pure trivial

theorem decoration_keeps {node : NodeInfo α} (harmless : node.IsHarmless) {unit : String}
    (isUnit : IsWidthUnit unit) : Keeps kept (decoration node unit) IsArguments := by
  refine (opacity_keeps invariant node.layer).bind fun opacity _ => ?_
  refine (filling_keeps invariant harmless opacity).bind fun filling valued => ?_
  refine (border_keeps invariant node.layer opacity isUnit).bind fun border bordered => ?_
  refine Keeps.ite (fun _ => Keeps.pure (Filling.isArguments_write valued)) fun _ => Keeps.pure ?_
  intro awaited lacks
  have extras := ((isArguments_rounding node.layer isUnit).append bordered).append
    (isArguments_shadow node.layer opacity)
  have opening : Reads "decoration: BoxDecoration(" (ready awaited lacks)
      (ready (')' :: awaited) lacks) := rfl
  have filled := opening.append (Filling.isArguments_write valued _ _)
  exact filled.arguments extras "), " (ready awaited lacks) rfl

theorem write_keeps {node : NodeInfo α} (harmless : node.IsHarmless) :
    Keeps kept (write node) (fun result => IsCall result.1 false) := by
  refine (Compile.settings_keeps invariant).bind fun settings isUnit => ?_
  refine (decoration_keeps invariant harmless isUnit).bind fun decoration decorated => ?_
  have size : IsArguments (if node.layout.isEnabled && node.layout.shouldFixSize then
      sizeArguments node.layer settings.widthUnit else "") := by
    split
    · exact isArguments_size node.layer isUnit
    · exact IsArguments.empty
  have opening : Reads "Container(" first (ready [] false) := rfl
  have begun := (opening.append (size _ _)).append (decorated _ _)
  refine Keeps.ite (fun _ => Keeps.pure ?_) fun _ => Keeps.pure ?_
  · exact begun.arguments (isArguments_margin node.layout isUnit) ")" (done false) rfl
  · exact begun.append rfl

end Box

/-! ### Pictures and images -/

theorem isWord_markupId (markup : String) : IsWord (markupId markup) := by
  have scope : IsWord "_svg_" := by decide
  refine scope.append (Text.Every.ofList fun char member => ?_)
  have digit := List.mem_of_mem_take member
  rw [Md5.hexOfText, Md5.Digest.hex, String.toList_ofList] at digit
  obtain ⟨part, _, inPart⟩ := List.mem_flatMap.mp digit
  obtain ⟨byte, _, inByte⟩ := List.mem_flatMap.mp inPart
  rcases List.mem_cons.mp inByte with same | later
  · exact same ▸ isPlainChar_hexDigit _
  · exact List.mem_singleton.mp later ▸ isPlainChar_hexDigit _

namespace Picture

variable [Scalar α] {kept : Context α → Prop} (invariant : Context.IsHarmlessInvariant kept)

include invariant

theorem markup_keeps (unit : ShapeUnit α) : Keeps kept (markup unit) (fun _ => True) :=
  Keeps.get fun _ _ => (Compile.note_keeps invariant.steady _).bind fun _ _ => Keeps.pure trivial

/-- A picture that is named for the first time gets the name of its markup. -/
theorem id_keeps {unit : ShapeUnit α} (unknown : unit.knownId = none) :
    Keeps kept (id unit) (fun result => IsWord result.1) := by
  refine Keeps.get fun context _ => ?_
  refine (Compile.note_keeps invariant.steady _).bind fun _ _ => Keeps.pure ?_
  simp only [unknown]
  exact isWord_markupId _

theorem source_keeps {unit : ShapeUnit α} (unknown : unit.knownId = none) :
    Keeps kept (source unit) (fun result => IsValue result.1) := by
  refine Keeps.get fun context _ => ?_
  cases context.target with
  | clipboard =>
      exact (markup_keeps invariant unit).bind fun _ _ => Keeps.pure (isValue_stringLiteral _)
  | files =>
      refine (id_keeps invariant unknown).bind fun named word => ?_
      refine (markup_keeps invariant named.2).bind fun text _ => ?_
      exact (Compile.addPicture_keeps invariant.steady _ _).bind fun _ _ => Keeps.pure word.isValue

theorem write_keeps (layout : Layout α) {unit : ShapeUnit α} (unknown : unit.knownId = none) :
    Keeps kept (write layout unit) (fun result => IsCall result.1 false) := by
  refine (source_keeps invariant unknown).bind fun data isValue => ?_
  refine (Compile.addImport_keeps invariant.steady _).bind fun _ _ => ?_
  have opening : Reads "SvgPicture.string(" first (ready [] false) := rfl
  have drawn := opening.value isValue ", allowDrawingOutsideViewBox: true, " (ready [] false)
    fun _ => rfl
  refine Keeps.ite (fun _ => Keeps.pure ?_) fun _ => Keeps.pure ?_
  · exact drawn.append rfl
  · exact drawn.append rfl

end Picture

theorem RasterQueue.isQuotable_imageName (layerName : String) :
    IsQuotable (RasterQueue.imageName layerName) := by
  unfold RasterQueue.imageName
  dsimp only
  split
  · decide
  · refine Text.Every.ofList fun char member => ?_
    obtain ⟨own, _, same⟩ := List.mem_map.mp member
    rw [← same]
    split
    case isTrue letter =>
      apply isQuotableChar_of_isPlainChar
      rw [Text.isPlainChar, Text.isAlphanum_toLower letter]
      rfl
    case isFalse => rfl

theorem RasterQueue.isQuotable_add [Scalar α] {queue : RasterQueue α} (folder : IsQuotable queue.folder)
    {layer : LayerInfo α} (harmless : layer.IsHarmless) : IsQuotable (queue.add layer).2 := by
  have slash : IsQuotable "/" := by decide
  have suffix : IsQuotable ".png" := by decide
  have joint : IsQuotable "_" := by decide
  have name := RasterQueue.isQuotable_imageName layer.name
  have unique : IsQuotable (if queue.names.contains (RasterQueue.imageName layer.name) then
      RasterQueue.imageName layer.name ++ "_" ++ layer.guid
      else RasterQueue.imageName layer.name) := by
    split
    · exact (name.append joint).append harmless.guid
    · exact name
  exact ((folder.append slash).append unique).append suffix

theorem Compile.addRender_keeps [Scalar α] {kept : Context α → Prop}
    (invariant : Context.IsHarmlessInvariant kept) {layer : LayerInfo α} (harmless : layer.IsHarmless) :
    Keeps kept (Compile.addRender layer) IsQuotable := by
  intro context known
  refine ⟨?_, invariant.steady context _ ⟨rfl, rfl, rfl, rfl, rfl, rfl⟩ known⟩
  exact RasterQueue.isQuotable_add (invariant.isHarmless context known).folder harmless

theorem Group.writeRendered_keeps [Scalar α] [WritesNumerals α] {kept : Context α → Prop}
    (invariant : Context.IsHarmlessInvariant kept) {node : NodeInfo α} (harmless : node.IsHarmless) :
    Keeps kept (Group.writeRendered node) (fun result => IsCall result.1 false) := by
  refine (Compile.settings_keeps invariant).bind fun settings isUnit => ?_
  refine (Compile.addRender_keeps invariant harmless.layer).bind fun path quotable => Keeps.pure ?_
  have opening : Reads "Image(" first (ready [] false) := rfl
  have sized := opening.arguments (Box.isArguments_size node.layer isUnit) "image: "
    (wanting [] false) rfl
  exact sized.value (AssetImage.isCall_write quotable).isValue ", )" (done false) fun _ => rfl

/-! ### Texts -/

namespace Label

theorem isArguments_style {style : TextStyle} (values : style.HasValues) :
    IsArguments (styleArgument style) := by
  unfold styleArgument
  split
  · exact IsArguments.empty
  · exact isArguments_named (fun _ _ => rfl) (TextStyle.isCall_write values).isValue

variable [Scalar α]

theorem isArguments_last (block : TextBlock α) : IsArguments (lastArguments block) := by
  unfold lastArguments
  refine (IsArguments.append ?_ ?_).append ?_
  · split
    · exact IsArguments.empty
    · exact fun _ _ => rfl
  · cases block.align
    · exact IsArguments.empty
    · exact fun _ _ => rfl
    · exact fun _ _ => rfl
  · split
    · exact fun _ _ => rfl
    · exact IsArguments.empty

theorem isArguments_span (text : List Char) {style : TextStyle} (values : style.HasValues) :
    IsArguments (span text style) := by
  intro awaited lacks
  have opening : Reads "TextSpan(text: " (ready awaited lacks) (wanting (')' :: awaited) lacks) := rfl
  have quoted := opening.value (isValue_stringLiteral (String.ofList text)) ", "
    (ready (')' :: awaited) lacks) fun _ => rfl
  exact quoted.arguments (isArguments_style values) "), " (ready awaited lacks) rfl

variable [WritesNumerals α] {kept : Context α → Prop}
  (invariant : Context.IsHarmlessInvariant kept)

include invariant

omit [WritesNumerals α] in
theorem warnOfRun_keeps (layer : LayerInfo α) (run : TextRun α) :
    Keeps kept (warnOfRun layer run) (fun _ => True) := by
  have warns (message : String) := Compile.warn_keeps invariant.steady message layer
  unfold warnOfRun
  refine Keeps.ite_skip (warns _) ?_
  refine Keeps.ite_skip (warns _) ?_
  exact Keeps.ite (fun _ => warns _) fun _ => Keeps.pure trivial

omit [WritesNumerals α] in
theorem warnOfRuns_keeps (layer : LayerInfo α) :
    ∀ runs : List (TextRun α), Keeps kept (warnOfRuns layer runs) (fun _ => True)
  | [] => Keeps.pure trivial
  | run :: rest =>
      (warnOfRun_keeps invariant layer run).bind fun _ _ => warnOfRuns_keeps layer rest

omit [WritesNumerals α] in
theorem context_keeps {node : NodeInfo α} (harmless : node.IsHarmless) (block : TextBlock α) :
    Keeps kept (context node block)
      (fun context => ∀ name ∈ context.colorParam, IsIdentifier name) :=
  (Compile.inheritedOpacity_keeps invariant.steady node.layer).bind fun _ _ =>
    Keeps.pure harmless.params.fill

omit [WritesNumerals α] in
theorem warnOf_keeps (layer : LayerInfo α) (block : TextBlock α) :
    Keeps kept (warnOf layer block) (fun _ => True) := by
  refine (warnOfRuns_keeps invariant layer block.runs).bind fun _ _ => ?_
  exact Keeps.ite (fun _ => Compile.warn_keeps invariant.steady _ layer) fun _ => Keeps.pure trivial

omit [Scalar α] [WritesNumerals α] in
theorem useFont_keeps (run : TextRun α) : Keeps kept (useFont run) (fun _ => True) := by
  refine (Compile.settings_keeps invariant).bind fun settings _ => ?_
  exact Keeps.ite (fun _ => Keeps.pure trivial) fun _ => Compile.addFont_keeps invariant.steady _

theorem flat_keeps {node : NodeInfo α} (harmless : node.IsHarmless) (block : TextBlock α)
    {context : TextContext α} (param : ∀ name ∈ context.colorParam, IsIdentifier name) :
    Keeps kept (flat node block context) (fun code => IsCall code false) := by
  refine (useFont_keeps invariant _).bind fun _ _ => ?_
  refine (Compile.settings_keeps invariant).bind fun settings _ => Keeps.pure ?_
  have content : IsValue (node.params.text.getD (stringLiteral block.text)) := by
    cases given : node.params.text with
    | none => exact isValue_stringLiteral block.text
    | some name => exact (harmless.params.text name given).isWord.isValue
  have values := TextStyle.hasValues_ofRun (block.runs.headD TextRun.usual) settings .full param
  have opening : Reads "Text(" first (ready [] false) := rfl
  have said := opening.value content ", " (ready [] false) fun _ => rfl
  exact (said.append (isArguments_style values _ _)).arguments (isArguments_last block) ")"
    (done false) rfl

theorem spans_keeps (baseline : TextStyle) {context : TextContext α}
    (param : ∀ name ∈ context.colorParam, IsIdentifier name) :
    ∀ slices : List (TextRun α × List Char), Keeps kept (spans baseline context slices) IsArguments
  | [] => Keeps.pure IsArguments.empty
  | (run, text) :: rest => by
      refine (useFont_keeps invariant run).bind fun _ _ => ?_
      refine (Compile.settings_keeps invariant).bind fun settings _ => ?_
      refine (spans_keeps baseline param rest).bind fun others arguments => Keeps.pure ?_
      have values := TextStyle.hasValues_ofRun run settings .run param
      exact (isArguments_span text (TextStyle.hasValues_delta values baseline)).append arguments

theorem rich_keeps (block : TextBlock α) {context : TextContext α}
    (param : ∀ name ∈ context.colorParam, IsIdentifier name) :
    Keeps kept (rich block context) (fun code => IsCall code false) := by
  refine (Compile.settings_keeps invariant).bind fun settings _ => ?_
  refine (spans_keeps invariant _ param _).bind fun spans arguments => Keeps.pure ?_
  have values := TextStyle.hasValues_ofRun (block.runs.headD TextRun.usual) settings .baseline param
  have opening : Reads "Text.rich(TextSpan(" first (ready [')'] false) := rfl
  have styled := opening.arguments (isArguments_style values) "children: ["
    (ready [']', ')'] false) rfl
  have listed := styled.arguments arguments "], ), " (ready [] false) rfl
  exact listed.arguments (isArguments_last block) ")" (done false) rfl

omit invariant in
theorem isCall_place (layout : Layout α) (block : TextBlock α) {code : String}
    (call : IsCall code false) : IsCall (place layout block code).1 false := by
  unfold place
  split
  · exact call
  · split
    · unfold widened
      split
      · exact call
      · split
        · exact call
        · split
          · exact call
          case h_2 width rest _ =>
            have opening : Reads "SizedBox(width: " first (wanting [] false) := rfl
            have wide := opening.value (Scalar.isValue_fixed width 0) ", child: " (wanting [] false)
              fun _ => rfl
            exact wide.slot (Or.inr call) ", )" (done false) rfl rfl
    · exact call

theorem write_keeps {node : NodeInfo α} (harmless : node.IsHarmless) (isText : node.kind = .text) :
    Keeps kept (write node) (fun result => IsCall result.1 false) := by
  have kind := harmless.kind
  rw [isText] at kind
  obtain ⟨block, known⟩ := kind
  unfold write
  rw [known]
  refine (warnOf_keeps invariant node.layer block).bind fun _ _ => ?_
  refine (context_keeps invariant harmless block).bind fun context param => ?_
  have clipped {code : String} (call : IsCall code false) :
      IsCall (if block.isClipped then Scroll.vertical code else code) false := by
    split
    · have opening : Reads "SingleChildScrollView(primary: false, child: " first (wanting [] false) := rfl
      exact opening.slot (Or.inr call) ", )" (done false) rfl rfl
    · exact call
  refine Keeps.ite_bind (fun _ => flat_keeps invariant harmless block param)
    (fun _ => rich_keeps invariant block param) fun code call => Keeps.pure ?_
  exact isCall_place node.layout block (clipped call)

end Label

end DesignExport
