import DesignExport.Expression.Node
import DesignExport.Proofs.Compile.Keeps
import DesignExport.Proofs.Expression.Stated
import DesignExport.Proofs.Tree.Comments
set_option autoImplicit false

/-! How the code of a node begins. Where there is code it begins with the name of a widget and
the parenthesis behind the name, so a comment there stands among the arguments. Only the names
of instances are not fixed. -/

namespace DesignExport

open Compile (Yields)
open Wrapper (wrapAll)

namespace OpensCall

variable {code front : String}

/-- What stands behind the parenthesis does not matter. -/
theorem behind (opens : OpensCall front) (back : String) : OpensCall (front ++ back) := by
  rw [OpensCall, String.toList_append, List.find?_append, show front.toList.find? _ = _ from opens]
  rfl

theorem before {front : String} (plain : '/' ∉ front.toList) (opens : OpensCall code) :
    OpensCall (front ++ code) := by
  rw [OpensCall, String.toList_append, List.find?_append]
  cases found : front.toList.find? (fun char => char = '(' || char = '/') with
  | none => exact opens
  | some char =>
      have holds := List.find?_some found
      have member := List.mem_of_find?_eq_some found
      rcases (by simpa using holds : char = '(' ∨ char = '/') with parenthesis | slash
      · rw [parenthesis]
        rfl
      · exact absurd (slash ▸ member) plain

/-- Texts without parentheses and slashes can be replaced. -/
theorem replaceFirst {piece replacement : String} (opens : OpensCall code)
    (bare : piece.toList.find? (fun char => char = '(' || char = '/') = none)
    (plain : replacement.toList.find? (fun char => char = '(' || char = '/') = none) :
    OpensCall (Text.replaceFirst piece replacement code) := by
  unfold Text.replaceFirst
  split
  case h_1 before after cut =>
    rw [OpensCall, Text.eq_append_of_cutAround? cut, List.find?_append, List.find?_append, bare] at opens
    rw [OpensCall, String.toList_append, String.toList_append, String.toList_ofList,
      String.toList_ofList, List.find?_append, List.find?_append, plain]
    exact opens
  case h_2 => exact opens

theorem ne_empty (opens : OpensCall code) : code ≠ "" := by
  intro empty
  subst empty
  cases opens

end OpensCall

variable {α : Type} [Scalar α]

/-! ### Layouts and decorators -/

namespace Layout

variable (layout : Layout α) {code : String} (opens : OpensCall code) (layer : LayerInfo α)
  (unit : String)

include opens

theorem opensCall_transformed : OpensCall (layout.transformed code layer).1 := by
  unfold transformed
  dsimp only
  split
  · exact opens
  · split
    · exact opens
    · split
      · simp only [String.append_assoc]
        exact OpensCall.behind (by decide) _
      · simp only [String.append_assoc]
        exact OpensCall.behind (by decide) _

theorem opensCall_sized : OpensCall (layout.sized code unit) := by
  unfold sized sizedBox
  split
  · split
    · exact opens
    · split
      · simp only [String.append_assoc]
        exact OpensCall.behind (by decide) _
      · exact opens
  · split
    · exact (OpensCall.behind (by decide) _).behind _
    · exact opens

theorem opensCall_padded : OpensCall (layout.padded code unit) := by
  unfold padded
  split
  · simp only [String.append_assoc]
    exact OpensCall.behind (by decide) _
  · exact opens

theorem opensCall_moved : OpensCall (layout.moved code unit) := by
  unfold moved
  split
  · exact opens
  · split
    · exact opens
    · simp only [String.append_assoc]
      exact OpensCall.behind (by decide) _

theorem opensCall_withMargins (margins : List (String × α)) :
    OpensCall (withMargins code unit margins) := by
  unfold withMargins
  split
  · exact opens
  · simp only [String.append_assoc]
    exact OpensCall.behind (by decide) _

theorem opensCall_pinned : OpensCall (layout.pinned code unit) := by
  have centered {condition : Prop} [Decidable condition] : OpensCall (if condition then
      Text.replaceFirst "CrossAxisAlignment.start" "CrossAxisAlignment.center" code else code) := by
    split
    · exact opens.replaceFirst (by decide) (by decide)
    · exact opens
  unfold pinned
  split
  · split
    · exact opens
    · exact opensCall_withMargins centered unit _
  · exact opens

theorem opensCall_placed : OpensCall (layout.placed code unit layer).1 := by
  unfold placed
  split
  · exact opens
  · exact opensCall_moved layout opens unit
  · exact (OpensCall.behind (by decide) _).behind _
  · split
    · simp only [String.append_assoc]
      exact OpensCall.behind (by decide) _
    · exact opens
  · exact opensCall_pinned layout opens unit

theorem opensCall_wrap : OpensCall (layout.wrap code layer unit).1 := by
  unfold wrap
  split
  · have turned := opensCall_transformed layout opens layer
    have boxed := opensCall_padded layout (opensCall_sized layout turned unit) unit
    exact opensCall_placed layout boxed layer unit
  · exact opens

end Layout

theorem Decorator.exists_wrapper_eq (decorator : Decorator α) :
    ∃ front back, decorator.wrapper = .other front back ∧ OpensCall front := by
  cases decorator with
  | tap callback => exact ⟨_, _, rfl, (OpensCall.behind (by decide) _).behind _⟩
  | pageLink widget transition =>
      refine ⟨_, _, rfl, ?_⟩
      simp only [String.append_assoc]
      exact OpensCall.behind (by decide) _
  | blur amount =>
      refine ⟨_, _, rfl, ?_⟩
      simp only [String.append_assoc]
      exact OpensCall.behind (by decide) _

theorem Decorator.opensCall_wrapAll (decorators : List (Decorator α)) (unit : String) :
    ∀ {code : String}, OpensCall code → OpensCall (wrapAll unit (decorators.map wrapper) code) := by
  induction decorators with
  | nil => exact fun opens => opens
  | cons decorator rest ih =>
      intro code _
      obtain ⟨front, back, same, opens⟩ := decorator.exists_wrapper_eq
      refine ih ?_
      rw [same]
      exact (opens.behind _).behind _

/-! ### The kinds of nodes -/

/-- Code begins with a call if there is any. -/
def MayOpenCall (code : String) : Prop :=
  code = "" ∨ OpensCall code

theorem OpensCall.may {code : String} (opens : OpensCall code) : MayOpenCall code :=
  Or.inr opens

omit [Scalar α] in
theorem Child.writeStack_opens (children : List (Child α)) :
    Yields (writeStack children) (fun result => OpensCall result.1) :=
  Yields.bind_any fun _ => Yields.pure ((OpensCall.behind (by decide) _).behind _)

theorem Box.write_opens (node : NodeInfo α) :
    Yields (Box.write node) (fun result => OpensCall result.1) := by
  refine Yields.bind_any fun settings => Yields.bind_any fun decoration => ?_
  refine Yields.ite (fun _ => Yields.pure ?_) fun _ => Yields.pure ?_
  · simp only [String.append_assoc]
    exact OpensCall.behind (by decide) _
  · exact (((OpensCall.behind (by decide) _).behind _).behind _)

namespace Label

theorem opensCall_place (layout : Layout α) (block : TextBlock α) {code : String}
    (opens : OpensCall code) : OpensCall (place layout block code).1 := by
  have widened : OpensCall (widened layout block code).1 := by
    unfold Label.widened
    split
    · exact opens
    · split
      · exact opens
      · split
        · exact opens
        · simp only [String.append_assoc]
          exact OpensCall.behind (by decide) _
  unfold place
  split
  · exact opens
  · split
    · exact widened
    · exact opens

theorem write_opens (node : NodeInfo α) :
    Yields (write node) (fun result => MayOpenCall result.1) := by
  have flat (block : TextBlock α) (context : TextContext α) :
      Yields (flat node block context) OpensCall :=
    Yields.bind_any fun _ => Yields.bind_any fun _ => Yields.pure (by
      simp only [String.append_assoc]
      exact OpensCall.behind (by decide) _)
  have rich (block : TextBlock α) (context : TextContext α) :
      Yields (rich block context) OpensCall :=
    Yields.bind_any fun _ => Yields.bind_any fun _ => Yields.pure (by
      simp only [String.append_assoc]
      exact OpensCall.behind (by decide) _)
  have last (block : TextBlock α) {code : String} (opens : OpensCall code) : Yields
      (pure (place node.layout block (if block.isClipped then Scroll.vertical code else code)) :
        Compile α (String × Layout α)) (fun result => MayOpenCall result.1) := by
    refine Yields.pure (opensCall_place _ _ ?_).may
    split
    · exact (OpensCall.behind (by decide) _).behind _
    · exact opens
  unfold write
  split
  case h_1 block _ =>
    refine Yields.bind_any fun _ => Yields.bind_any fun context => ?_
    refine Yields.ite (fun _ => ?_) fun _ => ?_
    · exact Yields.bind (flat block context) fun _ opens => last block opens
    · exact Yields.bind (rich block context) fun _ opens => last block opens
  case h_2 => exact Yields.pure (Or.inl rfl)

end Label

theorem Picture.write_opens (layout : Layout α) (unit : ShapeUnit α) :
    Yields (Picture.write layout unit) (fun result => OpensCall result.1) := by
  refine Yields.bind_any fun data => Yields.bind_any fun _ => ?_
  have opening : OpensCall ("SvgPicture.string(" ++ data.1 ++ ", allowDrawingOutsideViewBox: true, ") :=
    (OpensCall.behind (by decide) _).behind _
  exact Yields.ite (fun _ => Yields.pure (opening.behind _)) fun _ => Yields.pure (opening.behind _)

theorem Root.write_opens (node : NodeInfo α) (children : List (Child α)) :
    Yields (Root.write node children) (fun result => OpensCall result.1) := by
  unfold Root.write
  split
  · refine Yields.bind_any fun color => Yields.bind_any fun body => Yields.pure ?_
    simp only [String.append_assoc]
    exact OpensCall.behind (by decide) _
  · exact Child.writeStack_opens children

namespace Group

theorem writeRendered_opens (node : NodeInfo α) :
    Yields (writeRendered node) (fun result => OpensCall result.1) :=
  Yields.bind_any fun _ => Yields.bind_any fun _ => Yields.pure (by
    simp only [String.append_assoc]
    exact OpensCall.behind (by decide) _)

omit [Scalar α] in
theorem opensCall_decorated (decoration code : String) : OpensCall (decorated decoration code) := by
  unfold decorated
  split
  · exact (((OpensCall.behind (by decide) _).behind _).behind _)
  · simp only [String.append_assoc]
    exact OpensCall.behind (by decide) _

theorem onBackground_opens (layer : LayerInfo α) (code unit : String) :
    Yields (onBackground layer code unit) OpensCall := by
  unfold onBackground
  refine Yields.ite_skip (Yields.bind_any fun opacity => ?_)
  dsimp only
  split
  · exact Yields.bind_any fun _ => Yields.bind_any fun _ => Yields.pure (opensCall_decorated _ _)
  · exact Yields.bind_any fun _ => Yields.bind_any fun _ => Yields.pure (opensCall_decorated _ _)

theorem writeFlex_opens (stack : Stack α) (children : List (Child α)) :
    Yields (writeFlex stack children) (fun result => OpensCall result.1) := by
  refine Yields.bind_any fun settings => Yields.bind_any fun cells => Yields.pure ?_
  have plain : '/' ∉ (flexWidget stack.orientation).toList := by
    cases stack.orientation with
    | vertical | horizontal => decide
  simp only [String.append_assoc]
  exact OpensCall.before plain (OpensCall.behind (by decide) _)

theorem writeContent_opens (node : NodeInfo α) (first : Child α) (rest : List (Child α)) :
    Yields (writeContent node first rest) (fun result => OpensCall result.1) := by
  refine Yields.bind_any fun settings => Yields.bind_any fun _ => ?_
  refine Yields.ite (fun _ => ?_) fun _ => ?_
  · refine Yields.bind_any fun written => ?_
    exact Yields.bind (onBackground_opens _ _ _) fun _ opens => Yields.pure opens
  · have children : Yields (writeChildren node false (first :: rest))
        (fun result => OpensCall result.1) := by
      unfold writeChildren
      split
      · exact writeFlex_opens _ _
      · exact Child.writeStack_opens _
    refine Yields.bind children fun written opens => Yields.pure ?_
    unfold padded
    split
    · simp only [String.append_assoc]
      exact OpensCall.behind (by decide) _
    · exact opens

omit [Scalar α] in
theorem opensCall_view (code : String) (direction : ScrollDirection) :
    OpensCall (Scroll.view code direction) := by
  cases direction with
  | vertical | horizontal | panning => exact (OpensCall.behind (by decide) _).behind _

end Group

namespace NodeInfo

/-- The name of the widget that a node is an instance of has no slash. -/
def CallsPlainly (node : NodeInfo α) : Prop :=
  ∀ widget, node.kind = .group (.instanceOf widget) → '/' ∉ widget.toList

variable {node : NodeInfo α} (plain : node.CallsPlainly) (children : List (Child α))

include plain

/-- The code for a node itself begins with a call. -/
theorem writeBody_opens :
    Yields (writeBody node children) (fun result => MayOpenCall result.1) := by
  unfold writeBody
  split
  case h_1 =>
    exact Yields.bind (Root.write_opens node children) fun _ opens => Yields.pure opens.may
  case h_2 => exact Yields.bind (Box.write_opens node) fun _ opens => Yields.pure opens.may
  case h_3 => exact Yields.bind (Label.write_opens node) fun _ opens => Yields.pure opens
  case h_4 unit _ =>
    exact Yields.bind (Picture.write_opens node.layout unit) fun _ opens => Yields.pure opens.may
  case h_5 kind group =>
    split
    case isTrue =>
      exact Yields.bind (Group.writeRendered_opens node) fun _ opens => Yields.pure opens.may
    case isFalse =>
      cases kind with
      | instanceOf widget =>
          have calls : OpensCall (widget ++ "()") := OpensCall.before (plain widget group) (by decide)
          exact Yields.pure calls.may
      | plain =>
          cases children with
          | nil => exact Yields.pure (Or.inl rfl)
          | cons first rest =>
              exact Yields.bind (Group.writeContent_opens node first rest) fun _ opens =>
                Yields.pure opens.may
      | scroll direction =>
          cases children with
          | nil => exact Yields.pure (Or.inl rfl)
          | cons first rest =>
              refine Yields.bind ?_ fun _ opens => Yields.pure (OpensCall.may opens)
              exact Yields.bind_any fun _ => Yields.bind_any fun _ =>
                Yields.pure (Group.opensCall_view _ direction)

omit plain in
/-- The code of a node without the comment of its layer. -/
def bareCode (node : NodeInfo α) (children : List (Child α)) (context : Context α) : String :=
  let body := ((writeBody node children).run context).1
  let unit := context.settings.widthUnit
  if body.1 = "" then ""
  else wrapAll unit (body.2.decorators.map Decorator.wrapper)
    (body.2.layout.wrap body.1 body.2.layer unit).1

theorem mayOpenCall_bareCode (context : Context α) :
    MayOpenCall (node.bareCode children context) := by
  unfold bareCode
  dsimp only
  split
  case isTrue => exact Or.inl rfl
  case isFalse filled =>
    have opens := (writeBody_opens plain children context).resolve_left filled
    exact (Decorator.opensCall_wrapAll _ _ (Layout.opensCall_wrap _ opens _ _)).may

omit plain in
theorem layer_writeBody (context : Context α) :
    ((writeBody node children).run context).1.2.layer = node.layer := by
  unfold writeBody
  split
  case h_5 kind _ =>
    split
    case isTrue => rfl
    case isFalse => cases kind <;> rfl
  all_goals rfl

/-- The comment of its layer is around the code of a node, if there is any. -/
theorem writeInline_run_bareCode (nodes : List (Node α)) (context : Context α) :
    let code := node.bareCode (Node.asChildren nodes) context
    ((writeInline node (Node.asChildren nodes)).run context).1.1 =
      if code = "" then "" else node.layer.commented context.settings code := by
  intro code
  by_cases empty : ((writeBody node (Node.asChildren nodes)).run context).1.1 = ""
  · have bare : code = "" := if_pos empty
    rw [if_pos bare, writeInline, Compile.run_bind]
    dsimp only
    rw [if_pos (String.isEmpty_iff.mpr empty)]
    exact empty
  · have bare : code = wrapAll context.settings.widthUnit _ _ := if_neg empty
    have opens := (writeBody_opens plain (Node.asChildren nodes) context).resolve_left empty
    have filled : code ≠ "" := by
      rw [bare]
      exact (Decorator.opensCall_wrapAll _ _ (Layout.opensCall_wrap _ opens _ _)).ne_empty
    rw [if_neg filled, writeInline_run empty, decorate_run, settings_writeBody, layer_writeBody, bare,
      layer_writeBody]

end NodeInfo

end DesignExport
