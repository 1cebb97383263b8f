import DesignExport.Dart.Literal
import DesignExport.Document.Layer
set_option autoImplicit false

/-! Views that scroll their content. -/

namespace DesignExport.Scroll

variable {α : Type} [Scalar α]

def vertical (code : String) : String :=
  "SingleChildScrollView(primary: false, child: " ++ code ++ ", )"

def horizontal (code : String) : String :=
  "SingleChildScrollView(primary: false, scrollDirection: Axis.horizontal, child: " ++ code ++ ", )"

def view (code : String) : ScrollDirection → String
  | .vertical => vertical code
  | .horizontal => horizontal code
  | .panning => horizontal (vertical code)

/-- Content is as large as the box around all children. -/
def content (children : List (LayerInfo α)) (code unit : String) : String :=
  match Rect.unionAll? (children.map (·.boundsInParent)) with
  | some extent =>
      "SizedBox(width: " ++ Dart.dimension (Scalar.roundTo extent.width 1) unit ++ ", height: " ++
        Dart.dimension (Scalar.roundTo extent.height 1) unit ++ ", child: " ++ code ++ ", )"
  | none => code

end DesignExport.Scroll
