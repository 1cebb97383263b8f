import DesignExport.Compile.AssetImage
import DesignExport.Layout.Alignment
import DesignExport.Proofs.Naming
import DesignExport.Proofs.Number.Texts
import DesignExport.TextStyle
set_option autoImplicit false

/-! The values and arguments that expressions are made of, read as code: insets,
alignments, paint, styles of text and images. -/

namespace DesignExport

open DesignExport.Dart
open DesignExport.Dart.Scanner (first done ready wanting)
open DesignExport.Text (IsPlain)

variable {α : Type} [Scalar α]

theorem Naming.IsIdentifier.isWord {text : String} (name : Naming.IsIdentifier text) :
    IsWord text := by
  refine ⟨name.every.mono fun char word => ?_, ?_⟩
  · simp only [isWordChar, Bool.or_eq_true, decide_eq_true_eq] at word
    simp only [Text.isPlainChar, Bool.or_eq_true, decide_eq_true_eq]
    rcases word with letter | underscore
    · exact Or.inl (Or.inl (Or.inl (Or.inl letter)))
    · exact Or.inr underscore
  · cases chars : text.toList with
    | nil => rw [Naming.IsIdentifier, chars] at name; cases name
    | cons first rest =>
        refine ⟨first, rfl, ?_⟩
        rintro rfl
        rw [Naming.IsIdentifier, chars] at name
        exact Bool.noConfusion name

theorem EdgeInsets.isValue_write [WritesNumerals α] {unit : String} (isUnit : IsWidthUnit unit)
    (insets : EdgeInsets α) : IsValue (insets.write unit) := by
  have size (value : α) : IsValue (dimension value unit) := isValue_dimension isUnit value
  apply IsCall.isValue
  unfold EdgeInsets.write
  cases insets.form with
  | all value =>
      have opening : Reads "EdgeInsets.all(" first (ready [] false) := rfl
      exact opening.value (size value) ")" (done false) fun _ => rfl
  | symmetric horizontal vertical =>
      have opening : Reads "EdgeInsets.symmetric(horizontal: " first (wanting [] false) := rfl
      have across := opening.value (size horizontal) ", vertical: " (wanting [] false) fun _ => rfl
      exact across.value (size vertical) ")" (done false) fun _ => rfl
  | sides left top right bottom =>
      have opening : Reads "EdgeInsets.fromLTRB(" first (ready [] false) := rfl
      have one := opening.value (size left) ", " (ready [] false) fun _ => rfl
      have two := one.value (size top) ", " (ready [] false) fun _ => rfl
      have three := two.value (size right) ", " (ready [] false) fun _ => rfl
      exact three.value (size bottom) ")" (done false) fun _ => rfl

namespace Paint

theorem isList_stopColors (stops : List (ColorStop α)) (opacity : α) :
    IsList (stopColors stops opacity) := by
  apply isList_intercalate
  intro value member
  obtain ⟨stop, _, same⟩ := List.mem_map.mp member
  exact same ▸ (isValue_colorLiteral stop.color opacity).isList

theorem isValue_solidColor {fill : Fill α} {opacity : α} {layer : LayerInfo α} {text : String}
    (found : (solidColor? fill opacity layer).1 = some text) : IsValue text := by
  have anyStop {color? : Option Color}
      (found : color?.map (fun own => colorLiteral own opacity) = some text) : IsValue text := by
    obtain ⟨own, _, same⟩ := Option.map_eq_some_iff.mp found
    exact same ▸ isValue_colorLiteral own opacity
  cases fill with
  | color own =>
      cases found
      exact isValue_colorLiteral own opacity
  | image => cases found
  | linear | radial | angular => exact anyStop found

end Paint

variable [WritesNumerals α]

/-- Two numbers in the place of a point. -/
theorem isValue_alignment (x y : α) :
    IsValue ("Alignment(" ++ Scalar.fixed x 3 ++ ", " ++ Scalar.fixed y 3 ++ ")") := by
  apply IsCall.isValue
  have opening : Reads "Alignment(" first (ready [] false) := rfl
  have across := opening.value (Scalar.isValue_fixed x 3) ", " (ready [] false) fun _ => rfl
  exact across.value (Scalar.isValue_fixed y 3) ")" (done false) fun _ => rfl

theorem Alignment.isValue_write (alignment : Alignment α) : IsValue alignment.write := by
  cases alignment with
  | named vertical horizontal =>
      refine ⟨true, fun pending awaited lacks => ?_⟩
      have scope : Reads "Alignment." ⟨.code, false, pending, awaited, lacks⟩
          (ready awaited lacks) := rfl
      refine scope.append ?_
      cases vertical <;> cases horizontal <;> rfl
  | fractional x y => exact isValue_alignment x y

namespace Paint

theorem isValue_fractionAlignment (x y : α) : IsValue (fractionAlignment x y) :=
  isValue_alignment _ _

theorem isList_stopPositions (stops : List (ColorStop α)) : IsList (stopPositions stops) := by
  apply isList_intercalate
  intro value member
  obtain ⟨stop, _, same⟩ := List.mem_map.mp member
  exact same ▸ (Scalar.isValue_fixed stop.position 3).isList

theorem isValue_gradient {fill : Fill α} {opacity : α} {text : String}
    (found : gradient? fill opacity = some text) : IsValue text := by
  have stops (list : List (ColorStop α)) {front : String}
      (start : Reads front first (ready [']'] false)) :
      Reads (front ++ stopColors list opacity ++ "], stops: [" ++ stopPositions list ++ "], )")
        first (done false) := by
    have colors := start.list (isList_stopColors list opacity) "], stops: [" (ready [']'] false)
      fun _ => rfl
    exact colors.list (isList_stopPositions list) "], )" (done false) fun _ => rfl
  cases fill with
  | linear gradient =>
      cases found
      apply IsCall.isValue
      have opening : Reads "LinearGradient(begin: " first (wanting [] false) := rfl
      have begins := opening.value (isValue_fractionAlignment gradient.startX gradient.startY)
        ", end: " (wanting [] false) fun _ => rfl
      have ends := begins.value (isValue_fractionAlignment gradient.endX gradient.endY)
        ", colors: [" (ready [']'] false) fun _ => rfl
      exact stops gradient.stops ends
  | radial gradient =>
      cases found
      apply IsCall.isValue
      have opening : Reads "RadialGradient(center: " first (wanting [] false) := rfl
      have centred := opening.value (isValue_fractionAlignment gradient.endX gradient.endY)
        ", radius: " (wanting [] false) fun _ => rfl
      have wide := centred.value (Scalar.isValue_fixed gradient.endRadius 3)
        ", colors: [" (ready [']'] false) fun _ => rfl
      exact stops gradient.stops wide
  | color | angular | image => cases found

theorem isValue_borderRadius {radii : CornerRadii α} {unit text : String} (isUnit : IsWidthUnit unit)
    (found : borderRadius? radii unit = some text) : IsValue text := by
  have size (value : α) : IsValue (dimension value unit) := isValue_dimension isUnit value
  unfold borderRadius? at found
  dsimp only at found
  split at found
  · split at found
    · cases found
      apply IsCall.isValue
      have opening : Reads "BorderRadius.circular(" first (ready [] false) := rfl
      exact opening.value (size radii.topLeft) ")" (done false) fun _ => rfl
    · cases found
  · split at found
    · cases found
    · cases found
      apply IsCall.isValue
      have opening : Reads "BorderRadius.only(" first (ready [] false) := rfl
      refine opening.list (isList_intercalate ?_) ", )" (done false) fun _ => rfl
      intro piece member
      obtain ⟨⟨corner, radius⟩, inside, same⟩ := List.mem_map.mp member
      rw [← same]
      refine ⟨false, fun awaited lacks => ?_⟩
      have name : Reads corner (ready awaited lacks) ⟨.code, true, false, awaited, lacks⟩ := by
        have known := (List.mem_filter.mp inside).1
        simp only [List.mem_cons, Prod.mk.injEq, List.not_mem_nil, or_false] at known
        rcases known with ⟨rfl, _⟩ | ⟨rfl, _⟩ | ⟨rfl, _⟩ | ⟨rfl, _⟩ <;> rfl
      have circle : Reads ": Radius.circular(" ⟨.code, true, false, awaited, lacks⟩
          (ready (')' :: awaited) lacks) := rfl
      exact (name.append circle).value (size radius) ")" (ready awaited lacks) fun _ => rfl

theorem isValue_border (stroke : Stroke α) (opacity : α) (layer : LayerInfo α) {unit : String}
    (isUnit : IsWidthUnit unit) : IsValue (border stroke opacity layer unit).1 := by
  apply IsCall.isValue
  have opening : Reads "Border.all(width: " first (wanting [] false) := rfl
  have wide := opening.value (isValue_dimension isUnit stroke.width) ", color: " (wanting [] false)
    fun _ => rfl
  exact wide.value (isValue_colorLiteral stroke.color opacity) ", )" (done false) fun _ => rfl

theorem isArguments_shadow (shadow : Shadow α) (opacity : α) :
    IsArguments (shadowArguments shadow opacity) := by
  intro awaited lacks
  have number (value : α) : IsValue (Scalar.fixed value 1) := Scalar.isValue_fixed value 1
  have opening : Reads "color: " (ready awaited lacks) (wanting awaited lacks) := rfl
  have colored := opening.value (isValue_colorLiteral shadow.color opacity) ", offset: Offset("
    (ready (')' :: awaited) lacks) fun _ => rfl
  have across := colored.value (number shadow.x) ", " (ready (')' :: awaited) lacks) fun _ => rfl
  have moved := across.value (number shadow.y) "), blurRadius: " (wanting awaited lacks) fun _ => rfl
  exact moved.value (number shadow.blur) ", " (ready awaited lacks) fun _ => rfl

theorem isCall_textShadow (shadow : Shadow α) (opacity : α) :
    IsCall (textShadow shadow opacity) false := by
  have opening : Reads "Shadow(" first (ready [] false) := rfl
  exact opening.arguments (isArguments_shadow shadow opacity) ")" (done false) rfl

theorem isValue_boxShadow (shadow : Shadow α) (opacity : α) : IsValue (boxShadow shadow opacity) := by
  refine ⟨false, fun pending awaited lacks => ?_⟩
  have opening : Reads "[BoxShadow(" ⟨.code, false, pending, awaited, lacks⟩
      (ready (')' :: ']' :: awaited) lacks) := rfl
  exact opening.arguments (isArguments_shadow shadow opacity) "), ]" (ready awaited lacks) rfl

end Paint

/-! ### Images -/

namespace AssetImage

theorem isCall_write {path : String} (quotable : IsQuotable path) : IsCall (write path) false := by
  have opening : Reads "AssetImage('" first ⟨.literal .single, false, false, [], false⟩ := rfl
  have inside : Reads path ⟨.literal .single, false, false, [], false⟩
      ⟨.literal .single, false, false, [], false⟩ := scan_of_isQuotable quotable false [] false
  have closing : Reads "')" ⟨.literal .single, false, false, [], false⟩ (done false) := rfl
  exact (opening.append inside).append closing

theorem isQuotable_path {name : String} (quotable : IsQuotable name) : IsQuotable (path name) := by
  have folder : IsQuotable "assets/images/" := by decide
  have suffix : IsQuotable ".png" := by decide
  exact (folder.append quotable).append suffix

end AssetImage

/-! ### Styles of text -/

namespace TextStyle

theorem isArguments_join : ∀ {pieces : List String}, (∀ piece ∈ pieces, IsArguments piece) →
    IsArguments (String.join pieces)
  | [], _ => IsArguments.empty
  | piece :: rest, each => by
      obtain ⟨first, others⟩ := List.forall_mem_cons.mp each
      rw [String.join_cons]
      exact first.append (isArguments_join others)

/-- All values of a style are values of code. -/
def HasValues (style : TextStyle) : Prop :=
  ∀ entry ∈ style, IsValue entry.2

theorem isCall_write {style : TextStyle} (values : style.HasValues) : IsCall style.write false := by
  have opening : Reads "TextStyle(" first (ready [] false) := rfl
  refine opening.arguments (isArguments_join fun piece member => ?_) ")" (done false) rfl
  obtain ⟨⟨key, value⟩, inside, same⟩ := List.mem_map.mp member
  rw [← same]
  intro awaited lacks
  have key : Reads (key.name ++ ": ") (ready awaited lacks) (wanting awaited lacks) := by
    have name : Reads key.name (ready awaited lacks) ⟨.code, true, false, awaited, lacks⟩ := by
      cases key <;> rfl
    exact name.append rfl
  exact key.value (values (_, value) inside) ", " (ready awaited lacks) fun _ => rfl

theorem hasValues_delta {style : TextStyle} (values : style.HasValues) (baseline : TextStyle) :
    (style.delta baseline).HasValues :=
  fun entry member => values entry (List.mem_filter.mp member).1

theorem isWord_weight {style weight : String} (found : FontStyle.weight? style = some weight) :
    IsWord ("FontWeight." ++ weight) := by
  have names : ∀ entry ∈ FontStyle.weightNames, IsPlain entry.2 := by decide
  have scope : IsWord "FontWeight." := by decide
  refine scope.append ?_
  unfold FontStyle.weight? at found
  split at found
  · cases found
  · obtain ⟨entry, inside, same⟩ := Option.map_eq_some_iff.mp found
    exact same ▸ names entry (List.mem_of_find?_eq_some inside)

theorem isValue_value {run : TextRun α} {context : TextContext α} {settings : Settings}
    (param : ∀ name ∈ context.colorParam, Naming.IsIdentifier name) {key : StyleKey} {text : String}
    (found : value? run context settings key = some text) : IsValue text := by
  cases key with
  | fontFamily =>
      cases found
      exact isValue_stringLiteral _
  | fontSize =>
      cases found
      exact Scalar.isValue_fixed run.size 6
  | color =>
      unfold value? at found
      cases named : context.colorParam with
      | some name =>
          rw [named] at found
          cases found
          exact (param _ named).isWord.isValue
      | none =>
          rw [named] at found
          obtain ⟨color, _, same⟩ := Option.map_eq_some_iff.mp found
          exact same ▸ isValue_colorLiteral color context.opacity
  | letterSpacing =>
      simp only [value?, letterSpacing?] at found
      split at found
      · cases found
      · cases found
        exact Scalar.isValue_fixed _ 6
  | fontStyle =>
      simp only [value?] at found
      split at found
      · cases found
        exact ⟨true, fun _ _ _ => rfl⟩
      · cases found
  | fontWeight =>
      obtain ⟨weight, known, same⟩ := Option.map_eq_some_iff.mp found
      exact same ▸ (isWord_weight known).isValue
  | decoration =>
      simp only [value?, decoration?] at found
      split at found
      · cases found
        exact IsCall.isValue rfl
      · cases found
        exact ⟨true, fun _ _ _ => rfl⟩
      · cases found
        exact ⟨true, fun _ _ _ => rfl⟩
      · cases found
  | height =>
      simp only [value?, lineHeight?] at found
      split at found
      · cases found
      · cases found
        exact Scalar.isValue_fixed _ 2
  | shadows =>
      obtain ⟨shadow, _, same⟩ := Option.map_eq_some_iff.mp found
      rw [← same]
      refine ⟨false, fun pending awaited lacks => ?_⟩
      have opening : Reads "[" ⟨.code, false, pending, awaited, lacks⟩
          (ready (']' :: awaited) lacks) := rfl
      have shadowed := (Paint.isCall_textShadow shadow context.opacity).isValue
      exact opening.value shadowed ", ]" (ready awaited lacks) fun _ => rfl

theorem hasValues_ofRun (run : TextRun α) {context : TextContext α} (settings : Settings)
    (scope : StyleScope) (param : ∀ name ∈ context.colorParam, Naming.IsIdentifier name) :
    (ofRun run context settings scope).HasValues := by
  intro entry member
  obtain ⟨key, _, found⟩ := List.mem_filterMap.mp member
  obtain ⟨value, known, same⟩ := Option.map_eq_some_iff.mp found
  rw [← same]
  exact isValue_value param known

end TextStyle

end DesignExport
