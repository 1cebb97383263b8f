import DesignExport.Layout.Placement
import DesignExport.Proofs.Expression.Arguments
import DesignExport.Proofs.Text.Search
set_option autoImplicit false

/-! The layout around the code of a node makes a call of a call, and no argument gets
or loses its value by it. -/

namespace DesignExport.Layout

open DesignExport.Dart
open DesignExport.Dart.Scanner (first done ready wanting)

variable {α : Type} [Scalar α] [WritesNumerals α] (layout : Layout α) {code : String} {lacks : Bool}

/-- Both names of an alignment lead the scanner to the same place. -/
theorem scan_crossAxisAlignment (scanner : Scanner) :
    ∃ next : Option Scanner, scanner.scan "CrossAxisAlignment.start".toList = next ∧
      scanner.scan "CrossAxisAlignment.center".toList = next := by
  obtain ⟨mode, glued, pending, awaited, lacks⟩ := scanner
  cases mode with
  | name | segment => exact ⟨some ⟨.segment, glued, pending, awaited, lacks⟩, rfl, rfl⟩
  | code => exact ⟨some ⟨.code, true, false, awaited, lacks⟩, rfl, rfl⟩
  | comment => exact ⟨some ⟨.comment, glued, pending, awaited, lacks⟩, rfl, rfl⟩
  | slash | closed => exact ⟨none, rfl, rfl⟩
  | literal quote | escape quote =>
      refine ⟨some ⟨.literal quote, glued, pending, awaited, lacks⟩, ?_⟩
      cases quote <;> exact ⟨rfl, rfl⟩

omit [Scalar α] [WritesNumerals α] in
/-- An axis may be named otherwise. -/
theorem isCall_replaceFirst (call : IsCall code lacks) :
    IsCall (Text.replaceFirst "CrossAxisAlignment.start" "CrossAxisAlignment.center" code) lacks := by
  have alike : (fun scanner : Scanner => scanner.scan "CrossAxisAlignment.start".toList) =
      fun scanner => scanner.scan "CrossAxisAlignment.center".toList := by
    funext scanner
    obtain ⟨next, start, center⟩ := scan_crossAxisAlignment scanner
    exact start.trans center.symm
  unfold Text.replaceFirst
  split
  case h_1 before after found =>
    have whole := Text.eq_append_of_cutAround? found
    unfold IsCall Reads at *
    rw [whole, Scanner.scan_append, Scanner.scan_append, alike] at call
    rw [String.toList_append, String.toList_append, Scanner.scan_append, Scanner.scan_append,
      String.toList_ofList, String.toList_ofList, String.toList_ofList]
    exact call
  case h_2 => exact call

theorem isCall_transformed (layer : LayerInfo α) (call : IsCall code lacks) :
    IsCall (layout.transformed code layer).1 lacks := by
  have angle := Scalar.isValue_fixed (layout.input.rotation / 180.0 * 3.141592653589793) 4
  unfold transformed
  dsimp only
  split
  · exact call
  · split
    · exact call
    · split
      · have opening : Reads "Transform(alignment: Alignment.center, transform: Matrix4.identity()..rotateZ("
            first (ready [')'] false) := rfl
        have turned := opening.value angle ")..scale(1.0, -1.0), child: " (wanting [] false)
          fun _ => rfl
        exact turned.slot (Or.inr call) ", )" (done lacks) rfl rfl
      · have opening : Reads "Transform.rotate(angle: " first (wanting [] false) := rfl
        have turned := opening.value angle ", child: " (wanting [] false) fun _ => rfl
        exact turned.slot (Or.inr call) ", )" (done lacks) rfl rfl

section Measures

variable {unit : String} (isUnit : IsWidthUnit unit) (call : IsCall code lacks)

include isUnit call

theorem isCall_sizedBox : IsCall (layout.sizedBox code unit) lacks := by
  unfold sizedBox
  split
  case h_1 bounds found =>
    have opening : Reads "SizedBox(width: " first (wanting [] false) := rfl
    have wide := opening.value (isValue_dimension isUnit bounds.width) ", height: "
      (wanting [] false) fun _ => rfl
    have high := wide.value (isValue_dimension isUnit bounds.height) ", child: "
      (wanting [] false) fun _ => rfl
    exact high.slot (Or.inr call) ", )" (done lacks) rfl rfl
  case h_2 => exact call

theorem isCall_sized : IsCall (layout.sized code unit) lacks := by
  unfold sized
  split
  · split
    · exact call
    · exact layout.isCall_sizedBox isUnit call
  · split
    · have opening : Reads "SizedBox.expand(child: " first (wanting [] false) := rfl
      exact opening.slot (Or.inr call) ", )" (done lacks) rfl rfl
    · exact call

theorem isCall_padded : IsCall (layout.padded code unit) lacks := by
  unfold padded
  split
  case h_1 padding found =>
    have opening : Reads "Padding(padding: " first (wanting [] false) := rfl
    have inset := opening.value (padding.isValue_write isUnit) ", child: " (wanting [] false)
      fun _ => rfl
    exact inset.slot (Or.inr call) ", )" (done lacks) rfl rfl
  case h_2 => exact call

theorem isCall_moved : IsCall (layout.moved code unit) lacks := by
  unfold moved
  split
  case h_1 => exact call
  case h_2 bounds found =>
    split
    · exact call
    · have opening : Reads "Transform.translate(offset: Offset(" first (ready [')'] false) := rfl
      have across := opening.value (isValue_dimension isUnit bounds.x) ", " (ready [')'] false)
        fun _ => rfl
      have down := across.value (isValue_dimension isUnit bounds.y) "), child: " (wanting [] false)
        fun _ => rfl
      exact down.slot (Or.inr call) ", )" (done lacks) rfl rfl

theorem isCall_withMargins (margins : List (String × α))
    (named : ∀ entry ∈ margins, IsWord entry.1) : IsCall (withMargins code unit margins) lacks := by
  unfold withMargins
  split
  · exact call
  · have opening : Reads "Container(margin: EdgeInsets.only(" first (ready [')'] false) := rfl
    refine Reads.slot (opening.list (isList_intercalate ?_) "), child: " (wanting [] false)
      fun _ => rfl) (Or.inr call) ", )" (done lacks) rfl rfl
    intro piece member
    obtain ⟨⟨edge, margin⟩, inside, same⟩ := List.mem_map.mp member
    rw [← same]
    obtain ⟨gluedName, name⟩ := (named (edge, margin) (List.mem_filter.mp inside).1).isValue
    obtain ⟨glued, size⟩ := isValue_dimension isUnit margin
    refine ⟨glued, fun awaited before => ?_⟩
    have colon : Reads ": " ⟨.code, gluedName, false, awaited, before⟩ (wanting awaited before) := rfl
    exact ((name false awaited before).append colon).append (size true awaited before)

theorem isCall_pinned : IsCall (layout.pinned code unit) lacks := by
  have centered {condition : Prop} [Decidable condition] :
      IsCall (if condition then
        Text.replaceFirst "CrossAxisAlignment.start" "CrossAxisAlignment.center" code else code)
        lacks := by
    split
    · exact isCall_replaceFirst call
    · exact call
  have top : IsWord "top" := by decide
  have right : IsWord "right" := by decide
  have bottom : IsWord "bottom" := by decide
  have left : IsWord "left" := by decide
  unfold pinned
  split
  case h_1 bounds content known inner =>
    split
    · exact call
    · refine isCall_withMargins isUnit centered _ fun entry member => ?_
      simp only [List.mem_cons, List.not_mem_nil, or_false] at member
      rcases member with same | same | same | same
      all_goals
        rw [same]
        assumption
  case h_2 => exact call

theorem isCall_placed (layer : LayerInfo α) : IsCall (layout.placed code unit layer).1 lacks := by
  unfold placed
  split
  · exact call
  · exact layout.isCall_moved isUnit call
  · have opening : Reads "Center(child: " first (wanting [] false) := rfl
    exact opening.slot (Or.inr call) ", )" (done lacks) rfl rfl
  · split
    case h_1 alignment found =>
      have opening : Reads "Align(alignment: " first (wanting [] false) := rfl
      have aligned := opening.value alignment.isValue_write ", child: " (wanting [] false)
        fun _ => rfl
      exact aligned.slot (Or.inr call) ", )" (done lacks) rfl rfl
    case h_2 => exact call
  · exact layout.isCall_pinned isUnit call

/-- What is wrapped around a call is a call. -/
theorem isCall_wrap (layer : LayerInfo α) : IsCall (layout.wrap code layer unit).1 lacks := by
  unfold wrap
  split
  · have turned := layout.isCall_transformed layer call
    have boxed := layout.isCall_padded isUnit (layout.isCall_sized isUnit turned)
    exact layout.isCall_placed isUnit boxed layer
  · exact call

end Measures

end DesignExport.Layout
