import DesignExport.Expression.Root
import DesignExport.Proofs.Expression.Calls
import DesignExport.Proofs.Tree.Gaps
set_option autoImplicit false

/-! The code of groups and roots whose children are written as their nodes say: a child
without code is left out of lists, and leaves a gap where it stands alone. -/

namespace DesignExport

open Compile (Keeps)
open DesignExport.Dart
open DesignExport.Dart.Scanner (first done ready wanting)

variable {α : Type}

/-! ### Children -/

theorem Dart.IsCall.ne_empty {code : String} {lacks : Bool} (call : IsCall code lacks) :
    code ≠ "" := by
  rintro rfl
  cases call

/-- A call with a gap if and only if a condition holds. -/
def CallWith (gap : Prop) (code : String) : Prop :=
  ∃ lacks, IsCall code lacks ∧ (lacks = true ↔ gap)

def SlotWith (gap : Prop) (code : String) : Prop :=
  ∃ lacks, IsSlot code lacks ∧ (lacks = true ↔ gap)

/-- What is written for a node itself: nothing for a group without children, and a call
with the gaps of the node for any other one. -/
def NodeInfo.BodyOf (node : NodeInfo α) (children : List (Node α)) (code : String) : Prop :=
  (node.isEmptyGroup children = true ∧ code = "") ∨
    (node.isEmptyGroup children = false ∧ CallWith (Node.LeavesGap ⟨node, children⟩) code)

namespace Node

/-- What is written where a node stands. -/
def CodeOf (node : Node α) (code : String) : Prop :=
  (node.isBlank = true ∧ code = "") ∨ (node.isBlank = false ∧ CallWith node.GapWithin code)

/-- As an argument, a node that has no code leaves a gap. -/
theorem CodeOf.isSlot {node : Node α} {code : String} (codeOf : node.CodeOf code) :
    SlotWith (node.isBlank = true ∨ node.GapWithin) code := by
  rcases codeOf with ⟨blank, empty⟩ | ⟨present, lacks, call, gap⟩
  · exact ⟨true, Or.inl ⟨empty, rfl⟩, ⟨fun _ => Or.inl blank, fun _ => rfl⟩⟩
  · refine ⟨lacks, Or.inr call, ?_⟩
    rw [present, gap]
    simp only [Bool.false_eq_true, false_or]

/-- As an item of a list, a node that has no code is left out. -/
theorem CodeOf.areItems {node : Node α} {code : String} (codeOf : node.CodeOf code) :
    ∃ lacks, AreItems (Child.item code) lacks ∧ (lacks = true ↔ node.GapWithin) := by
  rcases codeOf with ⟨blank, empty⟩ | ⟨present, lacks, call, gap⟩
  · subst empty
    exact ⟨false, AreItems.empty, iff_of_false Bool.false_ne_true (not_gapWithin_of_isBlank blank)⟩
  · refine ⟨lacks, ?_, gap⟩
    intro awaited before
    rw [Child.item, if_neg fun empty => call.ne_empty (String.isEmpty_iff.mp empty)]
    exact (call.reads false false awaited before).append rfl

end Node

/-- Wherever a child is written, its code is that of its node. -/
def Child.IsCode (kept : Context α → Prop) (child : Child α) : Prop :=
  ∀ edit : Layout α → Layout α, Keeps kept (child.write edit) (fun written => child.node.CodeOf written.1)

/-- A list of items with a gap if and only if some node leaves one. -/
def ItemsOf (nodes : List (Node α)) (code : String) : Prop :=
  ∃ lacks, AreItems code lacks ∧ (lacks = true ↔ GapAmong nodes)

theorem itemsOf_nil : ItemsOf ([] : List (Node α)) "" :=
  ⟨false, AreItems.empty, iff_of_false Bool.false_ne_true not_gapAmong_nil⟩

theorem itemsOf_cons {node : Node α} {rest : List (Node α)} {lacks : Bool} {item items : String}
    (areItems : AreItems item lacks) (gap : lacks = true ↔ node.GapWithin)
    (itemsOf : ItemsOf rest items) : ItemsOf (node :: rest) (item ++ items) := by
  obtain ⟨lacksRest, others, gapRest⟩ := itemsOf
  refine ⟨lacks || lacksRest, areItems.append others, ?_⟩
  rw [Bool.or_eq_true, gap, gapRest, gapAmong_cons]

section Children

variable {kept : Context α → Prop}

theorem Child.writeList_keeps (edit : Layout α → Layout α) : ∀ children : List (Child α),
    (∀ child ∈ children, child.IsCode kept) →
      Keeps kept (writeList edit children) (fun result => ItemsOf (nodes children) result.1)
  | [], _ => Keeps.pure itemsOf_nil
  | child :: rest, codes => by
      obtain ⟨first, others⟩ := List.forall_mem_cons.mp codes
      refine (first edit).bind fun written codeOf => ?_
      refine (writeList_keeps edit rest others).bind fun items itemsOf => Keeps.pure ?_
      obtain ⟨lacks, areItems, gap⟩ := codeOf.areItems
      exact itemsOf_cons areItems gap itemsOf

theorem Child.writeStack_keeps (children : List (Child α))
    (codes : ∀ child ∈ children, child.IsCode kept) :
    Keeps kept (writeStack children)
      (fun result => CallWith (GapAmong (nodes children)) result.1) := by
  refine (writeList_keeps id children codes).bind fun items itemsOf => Keeps.pure ?_
  obtain ⟨lacks, areItems, gap⟩ := itemsOf
  refine ⟨lacks, ?_, gap⟩
  have opening : Reads "Stack(children: <Widget>[" first (ready [']'] false) := rfl
  exact opening.items areItems "], )" (done lacks) rfl

end Children

/-! ### Groups -/

namespace Group

variable [Scalar α] [WritesNumerals α]

theorem isCall_cell (orientation : Orientation) {unit : String} (isUnit : IsWidthUnit unit)
    (layer : LayerInfo α) {code : String} {lacks : Bool} (call : IsCall code lacks) :
    IsCall (cell orientation unit layer code) lacks := by
  have size := isValue_dimension isUnit (lengthAlong layer orientation)
  have axis : Reads (axisArgument orientation) (ready [] false) ⟨.code, true, false, [], false⟩ := by
    cases orientation <;> exact rfl
  have opening : Reads "SizedBox(" first (ready [] false) := rfl
  have named : Reads ": " ⟨.code, true, false, [], false⟩ (wanting [] false) := rfl
  unfold cell
  split
  · exact call
  · have sized := ((opening.append axis).append named).value size ", child: " (wanting [] false)
      fun _ => rfl
    exact sized.slot (Or.inr call) ", )" (done lacks) rfl rfl

theorem isArguments_spacer (orientation : Orientation) {unit : String} (isUnit : IsWidthUnit unit) (gap : α) :
    IsArguments (spacer orientation unit gap) := by
  unfold spacer
  split
  · intro awaited lacks
    have axis : Reads (axisArgument orientation) (ready (')' :: awaited) lacks)
        ⟨.code, true, false, ')' :: awaited, lacks⟩ := by
      cases orientation <;> exact rfl
    have opening : Reads "SizedBox(" (ready awaited lacks) (ready (')' :: awaited) lacks) := rfl
    have named : Reads ": " ⟨.code, true, false, ')' :: awaited, lacks⟩
      (wanting (')' :: awaited) lacks) := rfl
    exact ((opening.append axis).append named).value (isValue_dimension isUnit gap) ", ), "
      (ready awaited lacks) fun _ => rfl
  · exact IsArguments.empty

variable {kept : Context α → Prop}

theorem cells_keeps (orientation : Orientation) {unit : String} (isUnit : IsWidthUnit unit) :
    ∀ (children : List (α × Child α)) (hasTrimmed : Bool),
      (∀ entry ∈ children, entry.2.IsCode kept) →
        Keeps kept (cells orientation unit hasTrimmed children)
          (fun result => ItemsOf (Child.nodes (children.map Prod.snd)) result.1)
  | [], _, _ => Keeps.pure itemsOf_nil
  | (gap, child) :: rest, hasTrimmed, codes => by
      obtain ⟨first, others⟩ := List.forall_mem_cons.mp codes
      refine (first _).bind fun written codeOf => ?_
      obtain ⟨code, node⟩ := written
      rcases codeOf with ⟨blank, empty⟩ | ⟨present, lacks, call, gapOf⟩
      · refine Keeps.ite (fun _ => ?_) fun text => absurd (String.isEmpty_iff.mpr empty) text
        refine (cells_keeps orientation isUnit rest hasTrimmed others).bind fun items itemsOf =>
          Keeps.pure ?_
        have whole := itemsOf_cons AreItems.empty
          (iff_of_false Bool.false_ne_true (Node.not_gapWithin_of_isBlank blank)) itemsOf
        rw [String.empty_append] at whole
        exact whole
      · refine Keeps.ite (fun empty => absurd (String.isEmpty_iff.mp empty) (call.ne_empty))
          fun _ => ?_
        refine (cells_keeps orientation isUnit rest _ others).bind fun items itemsOf => Keeps.pure ?_
        refine itemsOf_cons (fun awaited before => ?_) gapOf itemsOf
        have spaced := isArguments_spacer orientation isUnit (trimOnce hasTrimmed gap).1 awaited before
        have celled := (isCall_cell orientation isUnit node.layer call).reads false false awaited before
        exact (spaced.append celled).append rfl

theorem writeFlex_keeps (invariant : Context.IsHarmlessInvariant kept) (stack : Stack α)
    (children : List (Child α)) (codes : ∀ child ∈ children, child.IsCode kept) :
    Keeps kept (writeFlex stack children)
      (fun result => CallWith (GapAmong (Child.nodes children)) result.1) := by
  refine (Compile.settings_keeps invariant).bind fun settings isUnit => ?_
  have inZip : ∀ entry ∈ withGaps ((stack.spacings.gaps (children.length - 1)).reverse)
      children.reverse, entry.2.IsCode kept :=
    fun entry member => codes entry.2 (List.mem_reverse.mp (List.of_mem_zip member).2)
  refine (cells_keeps stack.orientation isUnit _ false inZip).bind fun items itemsOf => Keeps.pure ?_
  rw [map_snd_withGaps] at itemsOf
  obtain ⟨lacks, areItems, gap⟩ := itemsOf
  refine ⟨lacks, ?_, gap.trans ?_⟩
  · have name : Reads (flexWidget stack.orientation) first Scanner.named := by
      cases stack.orientation <;> exact rfl
    have aligned : Reads
        "(crossAxisAlignment: CrossAxisAlignment.start, mainAxisAlignment: MainAxisAlignment.start, "
        Scanner.named (ready [] false) := rfl
    have opening : Reads "children: <Widget>[" (ready [] false) (ready [']'] false) := rfl
    exact ((name.append aligned).append opening).items areItems "], )" (done lacks) rfl
  · simp only [GapAmong, Child.nodes, List.mem_map, List.mem_reverse]

variable (invariant : Context.IsHarmlessInvariant kept) (node : NodeInfo α)

include invariant

/-- Without a background the children have a list around them. -/
theorem writeChildren_keeps (children : List (Child α)) (codes : ∀ child ∈ children, child.IsCode kept) :
    Keeps kept (writeChildren node false children)
      (fun result => CallWith (GapAmong (Child.nodes children)) result.1) := by
  unfold writeChildren
  split
  · exact writeFlex_keeps invariant _ children codes
  · exact Child.writeStack_keeps children codes

/-- On a background a single child stands alone. -/
theorem writeChildren_keeps_onBackground (children : List (Child α))
    (codes : ∀ child ∈ children, child.IsCode kept) :
    Keeps kept (writeChildren node true children)
      (fun result => SlotWith
        (IsSoleBlank node (Child.nodes children) ∨ GapAmong (Child.nodes children)) result.1) := by
  have listed {code : String} (notSole : ¬IsSoleBlank node (Child.nodes children))
      (call : CallWith (GapAmong (Child.nodes children)) code) :
      SlotWith (IsSoleBlank node (Child.nodes children) ∨ GapAmong (Child.nodes children)) code := by
    obtain ⟨lacks, isCall, gap⟩ := call
    exact ⟨lacks, Or.inr isCall, gap.trans (or_iff_right notSole).symm⟩
  unfold writeChildren
  cases arranged : node.layer.arrangement.activeStack? with
  | some stack =>
      have isStack : node.layer.arrangement.isStack = true := by
        rw [Arrangement.isStack, arranged]
        rfl
      refine (writeFlex_keeps invariant stack children codes).mono fun result call => ?_
      refine listed ?_ call
      rintro ⟨free, _⟩
      rw [isStack] at free
      cases free
  | none =>
      have free : node.layer.arrangement.isStack = false := by
        rw [Arrangement.isStack, arranged]
        rfl
      dsimp only
      split
      case h_1 only _ =>
        obtain ⟨code, _⟩ := List.forall_mem_cons.mp codes
        refine (code id).bind fun written codeOf => Keeps.pure ?_
        obtain ⟨lacks, isSlot, gap⟩ := codeOf.isSlot
        refine ⟨lacks, isSlot, gap.trans (or_congr ?_ ?_)⟩
        · constructor
          · exact fun blank => ⟨free, only.node, rfl, blank⟩
          · rintro ⟨_, other, same, blank⟩
            cases same
            exact blank
        · rw [Child.nodes, List.map_singleton, gapAmong_cons, or_iff_left not_gapAmong_nil]
      case h_2 others =>
        refine (Child.writeStack_keeps _ codes).mono fun result call => ?_
        refine listed ?_ call
        rintro ⟨_, only, alone, _⟩
        obtain ⟨child, single, _⟩ := List.map_eq_singleton_iff.mp alone
        exact others child rfl single

omit invariant in
/-- Padding makes a call of whatever stands in it; without padding nothing changes. -/
theorem padded_cases {unit : String} (isUnit : IsWidthUnit unit) (layer : LayerInfo α) {code : String}
    {lacks : Bool} (isSlot : IsSlot code lacks) :
    padded layer code unit = code ∨ IsCall (padded layer code unit) lacks := by
  unfold padded
  split
  case h_1 insets found =>
    have opening : Reads "Padding(padding: " first (wanting [] false) := rfl
    have inset := opening.value (insets.isValue_write isUnit) ", child: " (wanting [] false)
      fun _ => rfl
    exact Or.inr (inset.slot isSlot ", )" (done lacks) rfl rfl)
  case h_2 => exact Or.inl rfl

omit invariant in
theorem isSlot_padded {unit : String} (isUnit : IsWidthUnit unit) (layer : LayerInfo α) {code : String}
    {lacks : Bool} (isSlot : IsSlot code lacks) : IsSlot (padded layer code unit) lacks := by
  rcases padded_cases isUnit layer isSlot with same | call
  · rw [same]
    exact isSlot
  · exact Or.inr call

omit invariant in
theorem isCall_padded {unit : String} (isUnit : IsWidthUnit unit) (layer : LayerInfo α) {code : String}
    {lacks : Bool} (call : IsCall code lacks) : IsCall (padded layer code unit) lacks := by
  rcases padded_cases isUnit layer (Or.inr call) with same | padded
  · rw [same]
    exact call
  · exact padded

omit invariant [Scalar α] [WritesNumerals α] in
/-- A decoration around a padding takes the arguments of the padding over. -/
theorem isCall_decorated {decoration code : String} {lacks : Bool} (isValue : IsValue decoration)
    (isSlot : IsSlot code lacks) : IsCall (decorated decoration code) lacks := by
  have opening : Reads "Container(decoration: " first (wanting [] false) := rfl
  unfold decorated
  split
  case h_1 rest found =>
    have split := Text.eq_append_of_afterStart? found
    have padding : Reads "Padding(" first (ready [] false) := rfl
    rcases isSlot with ⟨empty, _⟩ | call
    · rw [empty] at split
      cases split
    · have closes : Reads (String.ofList rest) (ready [] false) (done lacks) := by
        unfold IsCall Reads at *
        rw [split, Scanner.scan_append, padding] at call
        rw [String.toList_ofList]
        exact call
      have decorated := opening.value isValue ", " (ready [] false) fun _ => rfl
      exact decorated.append closes
  case h_2 =>
    have decorated := opening.value isValue ", child: " (wanting [] false) fun _ => rfl
    exact decorated.slot isSlot ", )" (done lacks) rfl rfl

theorem onBackground_keeps {layer : LayerInfo α} {code unit : String} {lacks : Bool}
    (isUnit : IsWidthUnit unit) (isSlot : IsSlot code lacks) :
    Keeps kept (onBackground layer code unit) (fun result => IsCall result lacks) := by
  have drawn (opacity : α) {filling : Box.Filling} (valued : filling.HasValue) :
      Keeps kept (Box.border layer opacity unit >>= fun border => pure (decorated
          ("BoxDecoration(" ++ filling.write ++ border ++ Box.rounding layer unit ++ ")") code))
        (fun result => IsCall result lacks) := by
    refine (Box.border_keeps invariant layer opacity isUnit).bind fun border bordered => Keeps.pure ?_
    have opening : Reads "BoxDecoration(" first (ready [] false) := rfl
    have filled := opening.append (Box.Filling.isArguments_write valued _ _)
    have framed := filled.append (bordered _ _)
    have whole : IsCall _ false := framed.arguments (Box.isArguments_rounding layer isUnit) ")"
      (done false) rfl
    exact isCall_decorated whole.isValue isSlot
  unfold onBackground
  refine Keeps.ite_skip (Compile.warn_keeps invariant.steady _ layer) ?_
  refine (Compile.inheritedOpacity_keeps invariant.steady layer).bind fun opacity _ => ?_
  dsimp only
  split
  case h_1 fill active =>
    refine (Compile.noting_keeps invariant.steady _).bind fun color same => ?_
    cases color with
    | none => exact drawn opacity trivial
    | some expression => exact drawn opacity (Paint.isValue_solidColor same.symm)
  case h_2 => exact drawn opacity trivial

omit invariant [Scalar α] [WritesNumerals α] in
theorem warnOfMask_keeps (steady : Compile.IsSteady kept) (layer : LayerInfo α) :
    Keeps kept (warnOfMask layer) (fun _ => True) :=
  Keeps.ite (fun _ => Compile.warn_keeps steady _ layer) fun _ => Keeps.pure trivial

variable {node} (drawn : node.isDrawnGroup = true)

include drawn

theorem writeContent_keeps (first : Child α) (rest : List (Child α))
    (codes : ∀ child ∈ first :: rest, child.IsCode kept) :
    Keeps kept (writeContent node first rest)
      (fun result => CallWith (Node.LeavesGap ⟨node, Child.nodes (first :: rest)⟩) result.1) := by
  obtain ⟨_, others⟩ := List.forall_mem_cons.mp codes
  have gap := leavesGap_iff_of_isDrawnGroup drawn (Child.nodes (first :: rest))
  unfold writeContent
  refine (Compile.settings_keeps invariant).bind fun settings isUnit => ?_
  refine (warnOfMask_keeps invariant.steady node.layer).bind fun _ _ => ?_
  refine Keeps.ite (fun takes => ?_) fun takesNone => ?_
  · have background : node.others? (Child.nodes (first :: rest)) = some (Child.nodes rest) :=
      if_pos takes
    rw [background] at gap
    refine (writeChildren_keeps_onBackground invariant node rest others).bind
      fun result slot => ?_
    obtain ⟨code, written⟩ := result
    obtain ⟨lacks, isSlot, gapOf⟩ := slot
    refine (onBackground_keeps invariant isUnit (isSlot_padded isUnit node.layer isSlot)).bind
      fun onto call => Keeps.pure ?_
    exact ⟨lacks, call, gapOf.trans gap.symm⟩
  · have background : node.others? (Child.nodes (first :: rest)) = none := if_neg takesNone
    rw [background] at gap
    refine (writeChildren_keeps invariant node (first :: rest) codes).bind
      fun result called => Keeps.pure ?_
    obtain ⟨code, written⟩ := result
    obtain ⟨lacks, call, gapOf⟩ := called
    exact ⟨lacks, isCall_padded isUnit node.layer call, gapOf.trans gap.symm⟩

omit invariant [Scalar α] [WritesNumerals α] in
theorem bodyOf_nil : node.BodyOf [] "" :=
  Or.inl ⟨by rw [NodeInfo.isEmptyGroup, drawn]; rfl, rfl⟩

omit invariant [Scalar α] [WritesNumerals α] drawn in
theorem bodyOf_cons {first : Node α} {rest : List (Node α)} {code : String}
    (call : CallWith (Node.LeavesGap ⟨node, first :: rest⟩) code) :
    node.BodyOf (first :: rest) code :=
  Or.inr ⟨Bool.and_false _, call⟩

theorem write_keeps : ∀ children : List (Child α), (∀ child ∈ children, child.IsCode kept) →
    Keeps kept (write node children) (fun result => node.BodyOf (Child.nodes children) result.1)
  | [], _ => Keeps.pure (bodyOf_nil drawn)
  | first :: rest, codes =>
      (writeContent_keeps invariant drawn first rest codes).mono fun _ call => bodyOf_cons call

omit invariant drawn in
theorem isCall_scrolled (layers : List (LayerInfo α)) {code unit : String} {lacks : Bool}
    (isUnit : IsWidthUnit unit) (call : IsCall code lacks) (direction : ScrollDirection) :
    IsCall (Scroll.view (Scroll.content layers code unit) direction) lacks := by
  have vertical {code : String} (call : IsCall code lacks) : IsCall (Scroll.vertical code) lacks := by
    have opening : Reads "SingleChildScrollView(primary: false, child: " first (wanting [] false) := rfl
    exact opening.slot (Or.inr call) ", )" (done lacks) rfl rfl
  have horizontal {code : String} (call : IsCall code lacks) :
      IsCall (Scroll.horizontal code) lacks := by
    have opening : Reads
        "SingleChildScrollView(primary: false, scrollDirection: Axis.horizontal, child: " first
        (wanting [] false) := rfl
    exact opening.slot (Or.inr call) ", )" (done lacks) rfl rfl
  have content : IsCall (Scroll.content layers code unit) lacks := by
    unfold Scroll.content
    split
    case h_1 extent found =>
      have opening : Reads "SizedBox(width: " first (wanting [] false) := rfl
      have wide := opening.value (isValue_dimension isUnit (Scalar.roundTo extent.width 1))
        ", height: " (wanting [] false) fun _ => rfl
      have high := wide.value (isValue_dimension isUnit (Scalar.roundTo extent.height 1))
        ", child: " (wanting [] false) fun _ => rfl
      exact high.slot (Or.inr call) ", )" (done lacks) rfl rfl
    case h_2 => exact call
  cases direction with
  | vertical => exact vertical content
  | horizontal => exact horizontal content
  | panning => exact horizontal (vertical content)

theorem writeScroll_keeps (direction : ScrollDirection) :
    ∀ children : List (Child α), (∀ child ∈ children, child.IsCode kept) →
      Keeps kept (writeScroll node direction children)
        (fun result => node.BodyOf (Child.nodes children) result.1)
  | [], _ => Keeps.pure (bodyOf_nil drawn)
  | first :: rest, codes => by
      refine (Compile.settings_keeps invariant).bind fun settings isUnit => ?_
      refine (writeContent_keeps invariant drawn first rest codes).bind
        fun result called => Keeps.pure ?_
      obtain ⟨lacks, call, gap⟩ := called
      exact bodyOf_cons ⟨lacks, isCall_scrolled _ isUnit call direction, gap⟩

end Group

/-! ### Roots -/

namespace Root

variable {kept : Context α → Prop} (steady : Compile.IsSteady kept)

include steady

theorem pageColor_keeps [Scalar α] (owner : LayerInfo α) :
    Keeps kept (pageColor owner) (fun color => ∀ expression ∈ color, IsValue expression) := by
  unfold pageColor
  split
  case h_1 => exact Keeps.pure forall_mem_none
  case h_2 own active =>
    apply Keeps.pure
    intro expression same
    cases same
    exact isValue_colorLiteral own _
  case h_3 =>
    exact (Compile.warn_keeps steady _ owner).bind fun _ _ => Keeps.pure forall_mem_none
  case h_4 fill _ _ _ =>
    refine (Compile.warn_keeps steady _ owner).bind fun _ _ => Keeps.pure ?_
    intro expression found
    obtain ⟨color, _, same⟩ := Option.map_eq_some_iff.mp found
    exact same ▸ isValue_colorLiteral color _

section Body

omit steady

variable {node : NodeInfo α} (root : node.kind = .widgetRoot) (children : List (Child α))
  (codes : ∀ child ∈ children, child.IsCode kept)

include root codes

theorem writeStack_keeps_of_root (noSole : node.soleChild? (Child.nodes children) = none) :
    Keeps kept (Child.writeStack children)
      (fun result => CallWith (Node.LeavesGap ⟨node, Child.nodes children⟩) result.1) := by
  refine (Child.writeStack_keeps children codes).mono fun result called => ?_
  obtain ⟨lacks, call, gap⟩ := called
  refine ⟨lacks, call, gap.trans ?_⟩
  rw [leavesGap_iff_of_root root, noSole]

/-- The body of a page has a gap in its place if its only layer on a background has no
code. -/
theorem writeBody_keeps (page : node.layer.kind = .artboard) :
    Keeps kept (writeBody node children)
      (fun result => SlotWith (Node.LeavesGap ⟨node, Child.nodes children⟩) result.1) := by
  have listed (noSole : node.soleChild? (Child.nodes children) = none) :
      Keeps kept (Child.writeStack children)
        (fun result => SlotWith (Node.LeavesGap ⟨node, Child.nodes children⟩) result.1) :=
    (writeStack_keeps_of_root root children codes noSole).mono fun _ called => by
      obtain ⟨lacks, call, gap⟩ := called
      exact ⟨lacks, Or.inr call, gap⟩
  unfold writeBody
  split
  case h_1 first only =>
    refine Keeps.ite (fun takes => ?_) fun takesNone => listed (soleChild?_pair_of_not root takesNone)
    have sole : node.soleChild? (Child.nodes [first, only]) = some only.node :=
      soleChild?_pair root page takes
    refine (codes only (List.mem_cons_of_mem first List.mem_cons_self) id).bind
      fun written codeOf => Keeps.pure ?_
    obtain ⟨lacks, isSlot, gap⟩ := codeOf.isSlot
    refine ⟨lacks, isSlot, gap.trans ?_⟩
    rw [leavesGap_iff_of_root root, sole]
  case h_2 different => exact listed (soleChild?_of_not_pair root different)

end Body

theorem write_keeps [Scalar α] {node : NodeInfo α} (root : node.kind = .widgetRoot)
    (children : List (Child α)) (codes : ∀ child ∈ children, child.IsCode kept) :
    Keeps kept (write node children)
      (fun result => CallWith (Node.LeavesGap ⟨node, Child.nodes children⟩) result.1) := by
  unfold write
  split
  case h_1 page =>
    refine (pageColor_keeps steady _).bind fun color valued => ?_
    refine (writeBody_keeps root children codes page).bind fun result slot => Keeps.pure ?_
    obtain ⟨body, nodes⟩ := result
    obtain ⟨lacks, isSlot, gap⟩ := slot
    refine ⟨lacks, ?_, gap⟩
    have opening : Reads "Scaffold(" first (ready [] false) := rfl
    cases color with
    | none =>
        have uncoloured := opening.arguments IsArguments.empty "body: " (wanting [] false) rfl
        exact uncoloured.slot isSlot ", )" (done lacks) rfl rfl
    | some expression =>
        have background : IsArguments ("backgroundColor: " ++ expression ++ ", ") :=
          isArguments_named (fun _ _ => rfl) (valued expression rfl)
        have coloured := opening.arguments background "body: " (wanting [] false) rfl
        exact coloured.slot isSlot ", )" (done lacks) rfl rfl
  case h_2 noPage =>
    exact writeStack_keeps_of_root root children codes (soleChild?_of_not_page root noPage _)

end Root

end DesignExport