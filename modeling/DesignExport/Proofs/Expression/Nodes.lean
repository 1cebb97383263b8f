import DesignExport.Expression.Node
import DesignExport.Proofs.Expression.Groups
import DesignExport.Proofs.Tree.Reach
set_option autoImplicit false

/-! The code of harmless nodes, wherever they stand. Layout, decorators and comments make a
call of a call; the place that the export mode chooses takes it over or calls it. -/

namespace DesignExport

open Compile (Keeps)
open DesignExport.Dart
open DesignExport.Dart.Scanner (done)
open DesignExport.Naming (IsIdentifier)

variable {α : Type}

/-- The body of a build method for a node may be added. -/
def Context.AcceptsMethod (kept : Context α → Prop) (node : Node α) : Prop :=
  ∀ name code, CallWith node.LeavesGap code → ∀ context, kept context → kept (context.withMethod name code)

/-- A call of a builder or of a build method. -/
theorem Naming.IsIdentifier.isCall_call {name : String} (identifier : IsIdentifier name) :
    IsCall (NodeInfo.call name) false :=
  identifier.isCall rfl

namespace NodeInfo

variable [Scalar α] [WritesNumerals α] {kept : Context α → Prop}
  (invariant : Context.IsHarmlessInvariant kept) {node : NodeInfo α}

include invariant

section Body

variable (harmless : node.IsHarmless) (children : List (Child α))

include harmless

/-- The node that is written for a node is about the same layer and is decorated alike. -/
theorem writeBody_keeps (codes : ∀ child ∈ children, child.IsCode kept) :
    Keeps kept (writeBody node children) (fun result => node.BodyOf (Child.nodes children) result.1 ∧
      result.2.layer = node.layer ∧ result.2.decorators = node.decorators) := by
  have closed {code : String} (call : IsCall code false) (undrawn : node.isDrawnGroup = false)
      (noRoot : node.kind ≠ .widgetRoot) : node.BodyOf (Child.nodes children) code := by
    have whole := Node.not_leavesGap_of_closed undrawn noRoot (Child.nodes children)
    refine Or.inr ⟨?_, false, call, iff_of_false Bool.false_ne_true whole⟩
    rw [isEmptyGroup, undrawn]
    rfl
  have ownKind := harmless.kind
  unfold writeBody
  cases kind : node.kind with
  | widgetRoot =>
      refine (Root.write_keeps invariant.steady kind children codes).bind fun result call =>
        Keeps.pure ⟨Or.inr ⟨?_, call⟩, rfl, rfl⟩
      rw [isEmptyGroup, isDrawnGroup, kind]
      rfl
  | box =>
      refine (Box.write_keeps invariant harmless).bind fun result call =>
        Keeps.pure ⟨closed call ?_ ?_, rfl, rfl⟩
      · rw [isDrawnGroup, kind]
      · rw [kind]
        rintro ⟨⟩
  | text =>
      refine (Label.write_keeps invariant harmless kind).bind fun result call =>
        Keeps.pure ⟨closed call ?_ ?_, rfl, rfl⟩
      · rw [isDrawnGroup, kind]
      · rw [kind]
        rintro ⟨⟩
  | shape unit =>
      rw [kind] at ownKind
      refine (Picture.write_keeps invariant node.layout ownKind).bind fun result call =>
        Keeps.pure ⟨closed call ?_ ?_, rfl, rfl⟩
      · rw [isDrawnGroup, kind]
      · rw [kind]
        rintro ⟨⟩
  | group groupKind =>
      have noRoot : node.kind ≠ .widgetRoot := by
        rw [kind]
        rintro ⟨⟩
      refine Keeps.ite (fun marked => ?_) fun unmarked => ?_
      · refine (Group.writeRendered_keeps invariant harmless).bind fun result call =>
          Keeps.pure ⟨closed call ?_ noRoot, rfl, rfl⟩
        rw [isDrawnGroup, kind]
        cases groupKind <;> simp only [marked, Bool.not_true]
      · have unmarked : (!node.layer.isMarkedForExport) = true := by
          rw [Bool.eq_false_iff.mpr unmarked]
          rfl
        cases groupKind with
        | instanceOf widget =>
            rw [kind] at ownKind
            refine Keeps.pure ⟨closed (ownKind.isCall rfl) ?_ noRoot, rfl, rfl⟩
            rw [isDrawnGroup, kind]
        | plain =>
            have drawn : node.isDrawnGroup = true := by
              rw [isDrawnGroup, kind]
              exact unmarked
            exact (Group.write_keeps invariant drawn children codes).bind fun result body =>
              Keeps.pure ⟨body, rfl, rfl⟩
        | scroll direction =>
            have drawn : node.isDrawnGroup = true := by
              rw [isDrawnGroup, kind]
              exact unmarked
            exact (Group.writeScroll_keeps invariant drawn direction children codes).bind
              fun result body => Keeps.pure ⟨body, rfl, rfl⟩

end Body

theorem decorate_keeps {code : String} {lacks : Bool} (call : IsCall code lacks)
    (layerHarmless : node.layer.IsHarmless)
    (decorators : ∀ decorator ∈ node.decorators, decorator.IsHarmless) :
    Keeps kept (decorate node code) (fun result => IsCall result.1 lacks) := by
  refine (Compile.settings_keeps invariant).bind fun settings isUnit => ?_
  have wrapped := node.layout.isCall_wrap isUnit call node.layer
  refine (Compile.note_keeps invariant.steady _).bind fun _ _ => ?_
  refine (Decorator.applyAll_keeps invariant node.decorators decorators wrapped).bind
    fun decorated called => ?_
  exact Keeps.ite (fun _ => Keeps.pure (isCall_layerComment called layerHarmless.name))
    fun _ => Keeps.pure called

variable (harmless : node.IsHarmless) (children : List (Child α))
  (codes : ∀ child ∈ children, child.IsCode kept)

include harmless codes

theorem writeInline_keeps : Keeps kept (writeInline node children)
    (fun result => node.BodyOf (Child.nodes children) result.1) := by
  refine (writeBody_keeps invariant harmless children codes).bind fun result body => ?_
  obtain ⟨code, written⟩ := result
  obtain ⟨bodyOf, sameLayer, sameDecorators⟩ := body
  rcases bodyOf with ⟨childless, empty⟩ | ⟨present, lacks, call, gap⟩
  · refine Keeps.ite (fun _ => Keeps.pure (Or.inl ⟨childless, empty⟩))
      fun text => absurd (String.isEmpty_iff.mpr empty) text
  · refine Keeps.ite (fun empty => absurd (String.isEmpty_iff.mp empty) call.ne_empty) fun _ => ?_
    have layerHarmless : written.layer.IsHarmless := sameLayer.symm ▸ harmless.layer
    have decorators : ∀ decorator ∈ written.decorators, decorator.IsHarmless :=
      sameDecorators.symm ▸ harmless.decorators
    exact (decorate_keeps invariant call layerHarmless decorators).bind fun result called =>
      Keeps.pure (Or.inr ⟨present, lacks, called, gap⟩)

/-- In a method the code is nothing where the node stands if there is none, and a call
without gaps otherwise. -/
theorem writeMethod_keeps (accepts : Context.AcceptsMethod kept ⟨node, Child.nodes children⟩) :
    Keeps kept (writeMethod node children) (fun result =>
      (node.isEmptyGroup (Child.nodes children) = true ∧ result.1 = "") ∨
        (node.isEmptyGroup (Child.nodes children) = false ∧ IsCall result.1 false)) := by
  refine (writeInline_keeps invariant harmless children codes).bind fun result body => ?_
  obtain ⟨code, written⟩ := result
  rcases body with ⟨childless, empty⟩ | ⟨present, call⟩
  · refine Keeps.ite (fun _ => Keeps.pure (Or.inl ⟨childless, empty⟩))
      fun text => absurd (String.isEmpty_iff.mpr empty) text
  · refine Keeps.ite (fun empty => ?_) fun _ => ?_
    · obtain ⟨lacks, isCall, _⟩ := call
      exact absurd (String.isEmpty_iff.mp empty) isCall.ne_empty
    · refine (Compile.settings_keeps invariant).bind fun settings _ => ?_
      refine (Compile.addMethod_keeps invariant.steady (accepts _ code call)).bind fun _ _ =>
        Keeps.pure (Or.inr ⟨present, ?_⟩)
      exact (node.layer.isIdentifier_methodName settings.normalizeNameCase).isCall_call

omit [Scalar α] [WritesNumerals α] codes in
theorem writeBuilder_keeps :
    Keeps kept (writeBuilder node children) (fun result => IsCall result.1 false) := by
  refine (Compile.settings_keeps invariant).bind fun settings _ => Keeps.pure ?_
  dsimp only
  cases given : node.params.builder with
  | none => exact (node.layer.isIdentifier_builderName settings.normalizeNameCase).isCall_call
  | some name => exact (harmless.params.builder name given).isCall_call

/-- The code of a node where it stands. -/
theorem write_keeps
    (accepts : node.mode = .method → Context.AcceptsMethod kept ⟨node, Child.nodes children⟩) :
    Keeps kept (write node children)
      (fun result => Node.CodeOf ⟨node, Child.nodes children⟩ result.1) := by
  have outside {code : String} (elsewhere : node.mode ≠ .inline) (call : IsCall code false) :
      CallWith (Node.GapWithin ⟨node, Child.nodes children⟩) code :=
    ⟨false, call, iff_of_false Bool.false_ne_true fun within => elsewhere within.1⟩
  unfold write
  cases mode : node.mode with
  | inline =>
      refine (writeInline_keeps invariant harmless children codes).mono fun result body => ?_
      rcases body with ⟨childless, empty⟩ | ⟨present, lacks, call, gap⟩
      · refine Or.inl ⟨?_, empty⟩
        rw [Node.isBlank, childless, mode]
        rfl
      · refine Or.inr ⟨?_, lacks, call, gap.trans (and_iff_right mode).symm⟩
        rw [Node.isBlank, present]
        rfl
  | method =>
      have elsewhere : node.mode ≠ .inline := by
        rw [mode]
        decide
      refine (writeMethod_keeps invariant harmless children codes (accepts mode)).mono
        fun result body => ?_
      rcases body with ⟨childless, empty⟩ | ⟨present, call⟩
      · refine Or.inl ⟨?_, empty⟩
        rw [Node.isBlank, childless, mode]
        rfl
      · refine Or.inr ⟨?_, outside elsewhere call⟩
        rw [Node.isBlank, present]
        rfl
  | builder =>
      have elsewhere : node.mode ≠ .inline := by
        rw [mode]
        decide
      refine (writeBuilder_keeps invariant harmless children).mono fun result call =>
        Or.inr ⟨?_, outside elsewhere call⟩
      rw [Node.isBlank, mode]
      exact Bool.and_false _
  | custom => exact absurd mode harmless.mode

end NodeInfo

namespace Node

/-- The places of nodes, but not what they are, may be edited before they are written. -/
theorem codeOf_withLayout {info : NodeInfo α} {layout : Layout α} {children : List (Node α)}
    {code : String} (codeOf : CodeOf ⟨{ info with layout := layout }, children⟩ code) :
    CodeOf ⟨info, children⟩ code := by
  rcases codeOf with blank | ⟨present, lacks, call, gap⟩
  · exact Or.inl blank
  · refine Or.inr ⟨present, lacks, call, gap.trans ?_⟩
    exact and_congr_right fun _ => leavesGap_withLayout info layout children

variable [Scalar α] {kept : Context α → Prop}

/-- Every build method of a tree may be added. -/
def AcceptsMethods (kept : Context α → Prop) (node : Node α) : Prop :=
  ∀ part ∈ node.parts, part.mode = .method → Context.AcceptsMethod kept part

mutual

theorem writeWith_keeps [WritesNumerals α] (invariant : Context.IsHarmlessInvariant kept) :
    ∀ node : Node α,
    node.Throughout NodeInfo.IsHarmless → node.AcceptsMethods kept → ∀ edit : Layout α → Layout α,
      Keeps kept (writeWith node edit) (fun written => node.CodeOf written.1)
  | ⟨info, children⟩, harmless, accepts, edit => by
      obtain ⟨own, below⟩ := throughout_mk.mp harmless
      have edited : NodeInfo.IsHarmless { info with layout := edit info.layout } :=
        ⟨own.layer, own.kind, own.decorators, own.mode, own.params⟩
      have codes := asChildren_isCode invariant children below fun child member part inside =>
        accepts part (mem_parts.mpr (Or.inr ⟨child, member, inside⟩))
      have written := NodeInfo.write_keeps invariant edited (asChildren children) codes
      rw [nodes_asChildren] at written
      refine (written fun isMethod name code call => ?_).mono fun _ => codeOf_withLayout
      obtain ⟨lacks, isCall, gap⟩ := call
      refine accepts _ (mem_parts.mpr (Or.inl rfl)) isMethod name code ⟨lacks, isCall, gap.trans ?_⟩
      exact leavesGap_withLayout info (edit info.layout) children

theorem asChildren_isCode [WritesNumerals α] (invariant : Context.IsHarmlessInvariant kept) :
    ∀ nodes : List (Node α),
    (∀ node ∈ nodes, node.Throughout NodeInfo.IsHarmless) →
      (∀ node ∈ nodes, node.AcceptsMethods kept) →
      ∀ child ∈ asChildren nodes, child.IsCode kept
  | [], _, _ => fun _ absent => absurd absent List.not_mem_nil
  | node :: rest, harmless, accepts => by
      obtain ⟨first, others⟩ := List.forall_mem_cons.mp harmless
      obtain ⟨acceptsFirst, acceptsOthers⟩ := List.forall_mem_cons.mp accepts
      rw [asChildren]
      exact List.forall_mem_cons.mpr
        ⟨writeWith_keeps invariant node first acceptsFirst,
          asChildren_isCode invariant rest others acceptsOthers⟩

end

end Node

end DesignExport
