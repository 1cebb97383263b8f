import DesignExport.Table
set_option autoImplicit false

/-! What the code of one widget needs outside its expression: imports,
constructor parameters, build methods and constants for pictures. -/

namespace DesignExport

/-- Types of constructor parameters. -/
inductive DartType where
  | string
  | color
  | imageProvider
  | voidCallback
  | widgetBuilder
deriving DecidableEq

def DartType.name : DartType → String
  | .string => "String"
  | .color => "Color"
  | .imageProvider => "ImageProvider"
  | .voidCallback => "VoidCallback"
  | .widgetBuilder => "WidgetBuilder"

def DartType.ofName? (name : String) : Option DartType :=
  [DartType.string, .color, .imageProvider, .voidCallback, .widgetBuilder].find?
    (fun type => type.name = name)

structure Parameter where
  name : String
  type : DartType
  /-- The expression for its default; without one the parameter may be null. -/
  default : Option String
  isRequired : Bool
deriving DecidableEq

structure WidgetScope where
  name : String
  /-- Whole import directives. -/
  imports : List String
  params : Table Parameter
  /-- Bodies of build methods by name. -/
  methods : Table String
  /-- Markup of pictures by the name of their constant. -/
  pictures : Table String

def WidgetScope.empty (name : String) : WidgetScope :=
  ⟨name, [], [], [], []⟩

end DesignExport
