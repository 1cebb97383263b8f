import DesignExport.Tree.Node
set_option autoImplicit false

/-! The shape pass. Neighbouring shapes are merged into one picture, and a plain
group that is left with one shape becomes a shape itself. Nodes below come first. -/

namespace DesignExport

variable {α : Type} [Scalar α]

namespace NodeInfo

/-- Whether a node may be merged into a shape. Boxes may if shapes are combined
eagerly and nothing about the box needs a widget of its own. -/
def isAbsorbable (node : NodeInfo α) (eager : Bool) : Bool :=
  match node.kind with
  | .shape _ => true
  | .box =>
      eager && !node.layer.hasImageFill && node.layer.visibleShadow?.isNone &&
        node.decorators.isEmpty
  | _ => false

/-- Groups of this kind may be replaced by the shape that they hold. -/
def isCollapsible (node : NodeInfo α) : Bool :=
  (match node.kind with
    | .group .plain => true
    | _ => false) &&
  node.mode = .inline && !node.layer.isMarkedForExport && !node.layer.isMasked &&
    node.layer.rotation == 0.0 && !node.layer.isFlipped && node.layer.arrangement.kind = .none

end NodeInfo

namespace Node

/-- A box as a shape of one primitive. -/
def asShape (node : Node α) : Node α :=
  match node.kind with
  | .box => { node with kind := .shape (ShapeUnit.ofPrimitive node.layer) }
  | _ => node

/-- Draws another node as part of this shape. -/
def absorb (node other : Node α) : Node α :=
  match node.kind, other.kind with
  | .shape unit, .shape inner => { node with kind := .shape (unit.absorb inner) }
  | .shape unit, .box => { node with kind := .shape (unit.push other.layer) }
  | _, _ => node

/-- One node for a run of nodes that may be merged. -/
def mergeRun : List (Node α) → List (Node α)
  | [] => []
  | [node] => [node]
  | first :: others => [others.foldl absorb first.asShape]

/-- Merges the runs of a list of neighbours, given the run begun. Special nodes
stand alone. -/
def mergeRuns (eager : Bool) (run : List (Node α)) : List (Node α) → List (Node α)
  | [] => mergeRun run
  | node :: rest =>
      if node.isAbsorbable eager && !node.isSpecial then mergeRuns eager (run ++ [node]) rest
      else mergeRun run ++ node :: mergeRuns eager [] rest

/-- A background is not merged with what is drawn on it. -/
def mergeSiblings (eager hasBackground : Bool) (children : List (Node α)) : List (Node α) :=
  match hasBackground, children with
  | true, first :: rest => first :: mergeRuns eager [] rest
  | _, _ => mergeRuns eager [] children

/-- Replaces a plain group by the one shape that it holds. -/
def collapse (node : Node α) : Node α :=
  match node.children with
  | [child] =>
      match child.kind with
      | .shape unit =>
          if node.isCollapsible && !node.hasBackground && child.decorators.isEmpty &&
              child.mode = .inline then
            { node with kind := .shape (ShapeUnit.framed node.layer unit), children := [] }
          else node
      | _ => node
  | _ => node

/-- Children of a stack keep their own places. -/
def mergeChildren (eager : Bool) (node : Node α) : Node α :=
  if node.layer.arrangement.isStack then node
  else { node with children := mergeSiblings eager node.hasBackground node.children }

/-- Whether boxes below a layer merge too. -/
def isEagerBelow (layer : LayerInfo α) (eager : Bool) : Bool :=
  eager || layer.flagProperty? .combineShapes = some true

mutual

def combineShapes : Node α → Bool → Node α
  | ⟨info, children⟩, eager =>
      let below := isEagerBelow info.layer eager
      collapse (mergeChildren below ⟨info, combineAll children below⟩)

def combineAll : List (Node α) → Bool → List (Node α)
  | [], _ => []
  | node :: rest, eager => combineShapes node eager :: combineAll rest eager

end

end Node

end DesignExport
