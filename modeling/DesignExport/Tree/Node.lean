import DesignExport.Layout.Placement
import DesignExport.Naming
import DesignExport.Shape.Unit
import DesignExport.Text.Blank
set_option autoImplicit false

/-! The tree that is compiled. A node stands for a layer, or for several layers
that have been merged into one shape. -/

namespace DesignExport

variable {α : Type} [Scalar α]

/-- How a layer appears in generated code. -/
inductive ExportMode where
  /-- As an expression where it sits. -/
  | inline
  /-- As a call of a build method. -/
  | method
  /-- As a call of a parameter that builds a widget. -/
  | builder
  /-- As a template of the user. -/
  | custom
deriving DecidableEq

def ExportMode.name : ExportMode → String
  | .inline => "inline"
  | .method => "method"
  | .builder => "builder"
  | .custom => "custom"

def ExportMode.ofName? (name : String) : Option ExportMode :=
  [ExportMode.inline, .method, .builder, .custom].find? (fun mode => mode.name = name)

inductive GroupKind where
  | plain
  | scroll (direction : ScrollDirection)
  /-- An instance of a component, which is a widget of its own. -/
  | instanceOf (widget : String)
deriving DecidableEq

inductive NodeKind (α : Type) where
  | widgetRoot
  /-- A box: a rectangle or an ellipse. -/
  | box
  | group (kind : GroupKind)
  | shape (unit : ShapeUnit α)
  | text

/-- Wrappers around the code of a node and its layout. -/
inductive Decorator (α : Type) where
  /-- Calls a parameter when tapped. -/
  | tap (callback : String)
  /-- Opens another widget when tapped. -/
  | pageLink (widget : String) (transition : Transition α)
  /-- Blurs what is behind. -/
  | blur (amount : α)

/-- Names of the parameters that stand for parts of a node. -/
structure RoleParams where
  text : Option String := none
  fill : Option String := none
  builder : Option String := none
deriving DecidableEq

structure NodeInfo (α : Type) where
  layer : LayerInfo α
  kind : NodeKind α
  layout : Layout α
  decorators : List (Decorator α)
  mode : ExportMode
  params : RoleParams

structure Node (α : Type) extends NodeInfo α where
  children : List (Node α)

namespace LayerInfo

/-- The name that marks a child as the background of its parent. -/
def isNamedBackground (layer : LayerInfo α) : Bool :=
  Text.trim layer.name = "bg"

/-- The build method of a layer in method mode. -/
def methodName (layer : LayerInfo α) (normalize : Bool) : String :=
  match layer.textProperty? .buildMethodName with
  | some name => Naming.identifier name false
  | none => "_build" ++ Naming.className layer.name normalize

/-- The parameter that stands for a layer in builder mode. -/
def builderName (layer : LayerInfo α) (normalize : Bool) : String :=
  match layer.textProperty? .buildMethodName with
  | some name => Naming.identifier name false
  | none => Naming.identifier layer.name normalize ++ "Builder"

end LayerInfo

namespace NodeInfo

def isShape (node : NodeInfo α) : Bool :=
  match node.kind with
  | .shape _ => true
  | _ => false

/-- Decorated, responsive and non-inline nodes keep a place of their own. -/
def isSpecial (node : NodeInfo α) : Bool :=
  !node.decorators.isEmpty || node.layout.isResponsive || node.mode ≠ .inline

/-- Whether a first child is drawn as the background. -/
def takesBackground (node : NodeInfo α) (first : LayerInfo α) : Bool :=
  match node.kind with
  | .group .plain | .group (.scroll _) =>
      node.layer.arrangement.background? = some first.guid || first.isNamedBackground
  | .widgetRoot => first.isNamedBackground
  | _ => false

end NodeInfo

namespace Node

/-- The first child is drawn as the background. -/
def hasBackground (node : Node α) : Bool :=
  match node.children with
  | first :: _ => node.takesBackground first.layer
  | [] => false

end Node

end DesignExport
