import DesignExport.Compile.Context
import DesignExport.Tree.Node
set_option autoImplicit false

/-! Children as their parent sees them when it is written: a node, and a step
that writes it once its layout has been edited. Empty code is left out of lists. -/

namespace DesignExport

variable {α : Type} [Scalar α]

/-- Code together with the node it has been written for. Writing a node can use
up parts of its layout. -/
abbrev Written (α : Type) := String × Node α

structure Child (α : Type) where
  node : Node α
  write : (Layout α → Layout α) → Compile α (Written α)

namespace Child

/-- Children that have not been written. -/
def nodes (children : List (Child α)) : List (Node α) :=
  children.map (·.node)

/-- Code as an item of a list. -/
def item (code : String) : String :=
  if code.isEmpty then "" else code ++ ", "

/-- Writes all children, each with its layout edited. -/
def writeList (edit : Layout α → Layout α) :
    List (Child α) → Compile α (String × List (Node α))
  | [] => pure ("", [])
  | child :: rest => do
      let (code, node) ← child.write edit
      let (codes, nodes) ← writeList edit rest
      pure (item code ++ codes, node :: nodes)

/-- Children above each other, the first one at the bottom. -/
def writeStack (children : List (Child α)) : Compile α (String × List (Node α)) := do
  let (codes, nodes) ← writeList id children
  pure ("Stack(children: <Widget>[" ++ codes ++ "], )", nodes)

end Child

end DesignExport
