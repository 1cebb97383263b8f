import DesignExport.Proofs.Layout.Frames
import DesignExport.Proofs.Tree.Reach
import Mathlib.Data.List.Forall2
set_option autoImplicit false

/-! The layouts that nodes are written with. A parent writes a child with its layout as it
is, or without a size of its own as a cell of a row or column, or as the settings of a
template want it. -/

namespace DesignExport

variable {α : Type}

/-- What is done to the layout of a node before the node is written. -/
inductive LayoutEdit where
  | asDesigned
  /-- The cell of a row or column states the length. -/
  | asCell
  | inTemplate (wanted : Template.ChildLayout)
deriving DecidableEq

namespace NodeInfo

variable [Scalar α]

/-- The edits that a parent makes to the layouts of its children. -/
inductive Edits (node : NodeInfo α) : LayoutEdit → Prop where
  | asDesigned : Edits node .asDesigned
  | asCell (stacked : node.writtenStack?.isSome) : Edits node .asCell
  | inTemplate (custom : node.mode = .custom) (place : node.placeholder? = some .children)
      (wanted : Template.ChildLayout) : Edits node (.inTemplate wanted)

end NodeInfo

section Writing

variable [Scalar α]

def LayoutEdit.apply : LayoutEdit → Layout α → Layout α
  | .asDesigned => id
  | .asCell => fun layout => { layout with shouldFixSize := false }
  | .inTemplate wanted => NodeInfo.editForTemplate wanted

namespace Child

/-- The same child for a parent that makes only some edits. -/
structure Agrees (edits : LayoutEdit → Prop) (one other : Child α) : Prop where
  node : one.node = other.node
  write : ∀ edit, edits edit → one.write edit.apply = other.write edit.apply

variable {edits : LayoutEdit → Prop}

section Lists

variable {children others : List (Child α)} (agree : List.Forall₂ (Agrees edits) children others)

include agree

theorem nodes_congr : nodes children = nodes others := by
  induction agree with
  | nil => rfl
  | cons first _ ih =>
      rw [nodes, nodes, List.map_cons, List.map_cons, first.node]
      exact congrArg _ ih

theorem writeList_congr {edit : LayoutEdit} (made : edits edit) :
    writeList edit.apply children = writeList edit.apply others := by
  induction agree with
  | nil => rfl
  | cons first _ ih => rw [writeList, writeList, first.write edit made, ih]

theorem writeStack_congr (designed : edits .asDesigned) : writeStack children = writeStack others := by
  have listed : writeList id children = writeList id others := writeList_congr agree designed
  rw [writeStack, writeStack, listed]

end Lists

end Child

namespace Group

open Child (Agrees)

variable {edits : LayoutEdit → Prop} {children others : List (Child α)}

theorem cells_congr (stacked : edits .asCell) (agree : List.Forall₂ (Agrees edits) children others)
    (orientation : Orientation) (unit : String) : ∀ (gaps : List α) (hasTrimmed : Bool),
      cells orientation unit hasTrimmed (gaps.zip children) =
        cells orientation unit hasTrimmed (gaps.zip others) := by
  induction agree with
  | nil =>
      intro gaps hasTrimmed
      rw [List.zip_nil_right]
  | @cons one other _ _ first _ ih =>
      intro gaps hasTrimmed
      cases gaps with
      | nil => rfl
      | cons gap rest =>
          have cell : one.write (fun layout => { layout with shouldFixSize := false }) =
              other.write (fun layout => { layout with shouldFixSize := false }) :=
            first.write .asCell stacked
          simp only [List.zip_cons_cons, cells, cell, ih rest]

section Writers

variable (agree : List.Forall₂ (Agrees edits) children others) (designed : edits .asDesigned)

include agree

theorem writeFlex_congr (stacked : edits .asCell) (stack : Stack α) :
    writeFlex stack children = writeFlex stack others := by
  have reversed : List.Forall₂ (Agrees edits) children.reverse others.reverse :=
    List.forall₂_reverse_iff.mpr agree
  simp only [writeFlex, withGaps, agree.length_eq, cells_congr stacked reversed]

variable {node : NodeInfo α} (stacked : node.layer.arrangement.activeStack?.isSome → edits .asCell)

include designed stacked

theorem writeChildren_congr (hasBackground : Bool) :
    writeChildren node hasBackground children = writeChildren node hasBackground others := by
  unfold writeChildren
  cases known : node.layer.arrangement.activeStack? with
  | some stack =>
      rw [known] at stacked
      exact writeFlex_congr agree (stacked rfl) stack
  | none =>
      have above := Child.writeStack_congr agree designed
      cases hasBackground with
      | false => exact above
      | true =>
          cases agree with
          | nil => rfl
          | @cons one other _ _ first rest =>
              cases rest with
              | nil =>
                  have sole : one.write id = other.write id := first.write .asDesigned designed
                  dsimp only
                  rw [sole]
              | cons => exact above

omit agree in
theorem writeContent_congr {one other : Child α} (first : Agrees edits one other)
    (rest : List.Forall₂ (Agrees edits) children others) :
    writeContent node one children = writeContent node other others := by
  have below := writeChildren_congr rest designed stacked true
  have all := writeChildren_congr (List.Forall₂.cons first rest) designed stacked false
  simp only [writeContent, first.node, below, all]

theorem write_congr : write node children = write node others := by
  cases agree with
  | nil => rfl
  | cons first rest => exact writeContent_congr designed stacked first rest

theorem writeScroll_congr (direction : ScrollDirection) :
    writeScroll node direction children = writeScroll node direction others := by
  cases agree with
  | nil => rfl
  | @cons one other ones others first rest =>
      have content := writeContent_congr designed stacked first rest
      have layers : (one :: ones).map (fun child => child.node.layer) =
          (other :: others).map (fun child => child.node.layer) := by
        have nodes := congrArg (List.map (·.layer)) (Child.nodes_congr (List.Forall₂.cons first rest))
        rw [Child.nodes, Child.nodes, List.map_map, List.map_map] at nodes
        exact nodes
      simp only [writeScroll, content, layers]

end Writers

end Group

namespace Root

open Child (Agrees)

variable {edits : LayoutEdit → Prop} {children others : List (Child α)}
  (agree : List.Forall₂ (Agrees edits) children others) (designed : edits .asDesigned)
  (node : NodeInfo α)

include agree

theorem fillOwner_congr : fillOwner node children = fillOwner node others := by
  cases agree with
  | nil => rfl
  | cons first _ => simp only [fillOwner, first.node]

include designed

theorem writeBody_congr : writeBody node children = writeBody node others := by
  have above := Child.writeStack_congr agree designed
  cases agree with
  | nil => rfl
  | cons first rest =>
      cases rest with
      | nil => exact above
      | @cons only single _ _ second deeper =>
          cases deeper with
          | nil =>
              have sole : only.write id = single.write id := second.write .asDesigned designed
              simp only [writeBody, first.node, sole, above]
          | cons => exact above

theorem write_congr : write node children = write node others := by
  unfold write
  split
  case h_1 =>
    simp only [writePage, fillOwner_congr agree node, writeBody_congr agree designed node]
  case h_2 => exact Child.writeStack_congr agree designed

end Root

namespace NodeInfo

open Child (Agrees)

variable {node : NodeInfo α} {children others : List (Child α)}
  (agree : List.Forall₂ (Agrees node.Edits) children others)

include agree

theorem writeBody_congr : node.writeBody children = node.writeBody others := by
  unfold writeBody
  have nodes := Child.nodes_congr agree
  cases kind : node.kind with
  | widgetRoot => simp only [Root.write_congr agree .asDesigned node]
  | box | text | shape => simp only [nodes]
  | group groupKind =>
      dsimp only
      split
      case isTrue => simp only [nodes]
      case isFalse unmarked =>
        have stacked (drawn : node.isDrawnGroup = true) :
            node.layer.arrangement.activeStack?.isSome → node.Edits .asCell := by
          intro known
          refine Edits.asCell ?_
          rw [writtenStack?, if_pos drawn]
          exact known
        have shown : node.layer.isMarkedForExport = false := Bool.eq_false_iff.mpr unmarked
        cases groupKind with
        | instanceOf widget => simp only [nodes]
        | plain =>
            have drawn : node.isDrawnGroup = true := by
              rw [isDrawnGroup, kind, shown]
              rfl
            simp only [Group.write_congr agree .asDesigned (stacked drawn)]
        | scroll direction =>
            have drawn : node.isDrawnGroup = true := by
              rw [isDrawnGroup, kind, shown]
              rfl
            simp only [Group.writeScroll_congr agree .asDesigned (stacked drawn)]

theorem writeInline_congr : node.writeInline children = node.writeInline others := by
  rw [writeInline, writeInline, writeBody_congr agree]

theorem writeTemplate_congr (custom : node.mode = .custom) :
    node.writeTemplate children = node.writeTemplate others := by
  unfold writeTemplate
  dsimp only
  split
  case h_1 => rw [Child.nodes_congr agree]
  case h_2 cut found =>
    have placed (settings : Template.Settings) :
        node.writePlaceholder children cut.placeholder settings =
          node.writePlaceholder others cut.placeholder settings := by
      unfold writePlaceholder
      cases place : cut.placeholder with
      | this =>
          dsimp only
          rw [writeInline_congr agree, writeBody_congr agree]
      | children =>
          have reads : node.placeholder? = some .children := by
            rw [placeholder?, found, Option.map_some, place]
          have listed : Child.writeList (editForTemplate settings.childLayout) children =
              Child.writeList (editForTemplate settings.childLayout) others :=
            Child.writeList_congr agree (.inTemplate custom reads settings.childLayout)
          dsimp only
          rw [listed]
    simp only [placed]

/-- Nothing else is done to the layouts of children: children that are the same for the edits
of a node are the same for its code. -/
theorem write_congr : node.write children = node.write others := by
  unfold write
  cases mode : node.mode with
  | inline => exact writeInline_congr agree
  | method =>
      dsimp only
      rw [writeMethod, writeMethod, writeInline_congr agree]
  | builder =>
      dsimp only
      rw [writeBuilder, writeBuilder, Child.nodes_congr agree]
  | custom => exact writeTemplate_congr agree mode

end NodeInfo

/-! ### Edits in a tree -/

/-- A node with its layout edited. -/
def NodeInfo.edited (node : NodeInfo α) (edit : LayoutEdit) : NodeInfo α :=
  { node with layout := edit.apply node.layout }

namespace Node

/-- What may be done to the layout of a part of a tree before the part is written. -/
inductive Gives (tree : Node α) : Node α → LayoutEdit → Prop where
  | root : Gives tree tree .asDesigned
  | child {parent child : Node α} {edit : LayoutEdit} (inside : parent ∈ tree.parts)
      (member : child ∈ parent.children) (edits : parent.Edits edit) : Gives tree child edit

omit [Scalar α] in
theorem Gives.mem_parts {tree part : Node α} {edit : LayoutEdit} (gives : tree.Gives part edit) :
    part ∈ tree.parts := by
  cases gives with
  | root => exact (Reaches.self tree).mem_parts
  | @child parent _ _ inside member edits =>
      refine mem_parts_trans inside ?_
      obtain ⟨info, children⟩ := parent
      exact Node.mem_parts.mpr (Or.inr ⟨part, member, (Reaches.self part).mem_parts⟩)

/-- Parts are written with their layouts edited. -/
theorem writeWith_apply (node : Node α) (edit : LayoutEdit) :
    node.writeWith edit.apply = (node.edited edit).write (asChildren node.children) := by
  obtain ⟨info, children⟩ := node
  rw [writeWith]
  rfl

end Node

end Writing

end DesignExport
