import DesignExport.Expression.Node
import DesignExport.Number.Exact
import DesignExport.Proofs.Compile.Keeps
import DesignExport.Proofs.Tree.Gaps
import DesignExport.Proofs.Tree.LaidOut
import Mathlib.Tactic.Ring
set_option autoImplicit false

/-! What children are placed by, and what is written around them. Groups write the stack
and the padding that their children are placed by. Roots write neither, whatever their
layers ask for, so that a child of such a root is not where its layer is. -/

namespace DesignExport

open Compile (Yields)

variable {α : Type}

/-! ### What is written around children -/

namespace NodeInfo

variable [Scalar α]

/-- The stack that is written for the children of a node. -/
def writtenStack? (node : NodeInfo α) : Option (Stack α) :=
  if node.isDrawnGroup then node.layer.arrangement.activeStack? else none

/-- The padding that is written around the children of a node. -/
def writtenPadding? (node : NodeInfo α) : Option (EdgeInsets α) :=
  if node.isDrawnGroup then node.layer.arrangement.insets? else none

/-- Children in a row or column if there is a stack. Otherwise they stand above each
other, or there is a single one. -/
def LaysOut (stack : Option (Stack α)) (children : List (Child α)) (code : String) : Prop :=
  match stack with
  | some stack => ∃ context, ((Group.writeFlex stack children).run context).1.1 = code
  | none =>
      (∃ context, ((Child.writeStack children).run context).1.1 = code) ∨
        ∃ only, children = [only] ∧ ∃ context, ((only.write id).run context).1.1 = code

def inPadding (padding : Option (EdgeInsets α)) (unit code : String) : String :=
  match padding with
  | some insets => "Padding(padding: " ++ insets.write unit ++ ", child: " ++ code ++ ", )"
  | none => code

/-- What stands around the children of a node and their padding. -/
inductive Surrounds (content : String) : String → Prop where
  | bare : Surrounds content content
  | page (background : String) : Surrounds content ("Scaffold(" ++ background ++ "body: " ++ content ++ ", )")
  | onBackground (decoration : String) : Surrounds content (Group.decorated decoration content)
  | scrolled {code : String} (inner : Surrounds content code) (layers : List (LayerInfo α))
      (unit : String) (direction : ScrollDirection) :
      Surrounds content (Scroll.view (Scroll.content layers code unit) direction)

/-- Rows and columns are what they are called. -/
theorem LaysOut.flex {stack : Stack α} {children : List (Child α)} {code : String}
    (laysOut : LaysOut (some stack) children code) :
    ∃ items, code = Group.flexWidget stack.orientation ++
      "(crossAxisAlignment: CrossAxisAlignment.start, mainAxisAlignment: MainAxisAlignment.start, " ++
      "children: <Widget>[" ++ items ++ "], )" := by
  obtain ⟨context, same⟩ := laysOut
  exact ⟨_, same.symm⟩

end NodeInfo

/-! ### The code of parents -/

section Writing

variable [Scalar α]

namespace Group

variable {node : NodeInfo α} (drawn : node.isDrawnGroup = true)

theorem onBackground_yields_decorated (layer : LayerInfo α) (code unit : String) :
    Yields (onBackground layer code unit) (fun result => ∃ decoration, result = decorated decoration code) := by
  unfold onBackground
  refine Yields.ite_skip (Yields.bind_any fun opacity => ?_)
  dsimp only
  split
  · exact Yields.bind_any fun color => Yields.bind_any fun border => Yields.pure ⟨_, rfl⟩
  · exact Yields.bind_any fun color => Yields.bind_any fun border => Yields.pure ⟨_, rfl⟩

include drawn

theorem padded_eq (code unit : String) :
    padded node.layer code unit = NodeInfo.inPadding node.writtenPadding? unit code := by
  rw [NodeInfo.writtenPadding?, if_pos drawn]
  rfl

end Group

end Writing

/-! ### The place of a child -/

section Places

variable [Scalar α]

/-- The box of a layer in its own space. -/
def LayerInfo.area (layer : LayerInfo α) : Rect α :=
  if layer.isWidgetRoot then ⟨0.0, 0.0, layer.localBounds.width, layer.localBounds.height⟩
  else layer.localBounds

def Rect.within (area : Rect α) (padding : Option (EdgeInsets α)) : Rect α :=
  match padding with
  | some insets => area.insetBy insets
  | none => area

namespace Layout

theorem bounds_classifyConstrained (layout : Layout α) (content bounds : Rect α)
    (constraints : ResizeConstraints) :
    (classifyConstrained layout content bounds constraints).bounds = layout.bounds := by
  unfold classifyConstrained
  split
  · rfl
  · dsimp only
    split
    · rfl
    · rfl

theorem bounds_classify (layout : Layout α) (parent : ParentFrame α) :
    (classify layout parent).bounds = layout.bounds := by
  unfold classify
  dsimp only
  split
  · split
    · rfl
    · rfl
  · split
    · exact bounds_classifyConstrained _ _ _ _
    · rfl

/-- A child is placed from the corner of the area that its parent leaves for children. -/
theorem bounds_within (owner layer : LayerInfo α) :
    (within (some owner) layer).bounds = some ((ParentFrame.ofLayer owner).place layer) :=
  bounds_classify _ _

end Layout

/-- A tree that is built for a layer of a document. -/
inductive Document.Builds (document : Document α) : Node α → Prop where
  | root {layer : Layer α} {context : Context α}
      (inside : layer ∈ Layer.flattenAll document.children)
      (index : context.index = Index.ofDocument document) :
      Builds document ((Node.buildRoot layer).run context).1
  | below {layer : Layer α} {context : Context α} {node : Node α}
      (inside : layer ∈ Layer.flattenAll document.children)
      (index : context.index = Index.ofDocument document)
      (built : ((Node.build layer).run context).1 = some node) : Builds document node

theorem Document.Builds.isLaidOut {document : Document α} (distinct : document.HasDistinctGuids)
    {tree : Node α} (builds : document.Builds tree) : tree.IsLaidOut := by
  have owners {layer : Layer α} (inside : layer ∈ Layer.flattenAll document.children) :
      Node.KnowsOwners (Index.ofDocument document) layer.flatten :=
    fun part below child member =>
      Index.parentOf?_eq_some distinct (Layer.mem_flattenAll_trans inside below) member
  cases builds with
  | root inside index => exact Node.buildRoot_isLaidOut (index ▸ owners inside)
  | below inside index built => exact Node.build_isLaidOut (index ▸ owners inside) built

end Places

/-! ### Agreement -/

/-- How far padding moves what stands in it. -/
def EdgeInsets.start (padding : Option (EdgeInsets Rat)) : Point Rat :=
  match padding with
  | some insets => ⟨insets.left, insets.top⟩
  | none => ⟨0, 0⟩

namespace Node

/-- The padding around the children of a node and the layout of a child bring the child to
where its layer is in the box of the node. -/
def HasPlaceIn (child : Node Rat) (node : NodeInfo Rat) : Prop :=
  ∃ bounds, child.layout.bounds = some bounds ∧
    (EdgeInsets.start node.writtenPadding?).x + bounds.x =
      child.layer.boundsInParent.x - node.layer.area.x ∧
    (EdgeInsets.start node.writtenPadding?).y + bounds.y =
      child.layer.boundsInParent.y - node.layer.area.y

/-- What the children of a node are placed by is what is written around them. -/
structure Agrees (node : Node Rat) : Prop where
  stack : (ParentFrame.ofLayer node.layer).stack = node.writtenStack?.map (·.orientation)
  content : (ParentFrame.ofLayer node.layer).content = node.layer.area.within node.writtenPadding?
  places : ∀ child ∈ node.children, child.layer.rotation = 0 → child.HasPlaceIn node.toNodeInfo

end Node

end DesignExport
