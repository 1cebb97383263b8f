import DesignExport.Assets.Naming
import DesignExport.Export.SourceFile
import DesignExport.TextStyle
set_option autoImplicit false

/-! The class for shared text styles. -/

namespace DesignExport.TextStyleClass

variable {α : Type} [Scalar α]

/-- Measures with this unit need a package. -/
def screenUnit : String := ".w"

def screenImport : String := "import 'package:flutter_screenutil/flutter_screenutil.dart';"

/-- Styles stand for themselves: opaque, without spacing and shadow of a text. -/
def context : TextContext α where
  fill := none
  opacity := 1.0
  lineSpacing := 0.0
  shadow := none
  colorParam := none

def member (name : String) (style : TextRun α) (settings : Settings) : String :=
  "  static TextStyle " ++ name ++ " = " ++ (TextStyle.ofRun style context settings .full).write ++ ";"

/-- Members for styles, given the names taken. Of styles with one name the first
one is declared. -/
def members (settings : Settings) (taken : List String) :
    List (TextStyleAsset α) → List String × Log
  | [] => ([], [])
  | asset :: rest =>
      match AssetNaming.member? asset.name with
      | none => members settings taken rest
      | some name =>
          if taken.contains name then
            let (lines, log) := members settings taken rest
            (lines, ⟨.warning, "Duplicate character style asset name: " ++ name, none⟩ :: log)
          else
            let (lines, log) := members settings (name :: taken) rest
            (member name asset.style settings :: lines, log)

def usualName : String := "GenTextStyles"

/-- The file with the text styles of a document, unless it has none or they are
not to be exported. -/
def file? (assets : Assets α) (settings : Settings) : Option SourceFile × Log :=
  if !settings.exportTextStyles || assets.textStyles.isEmpty then (none, [])
  else
    let className := AssetNaming.className settings.textStylesClassName usualName
    let imports :=
      SourceFile.materialImport :: (if settings.widthUnit = screenUnit then [screenImport] else [])
    let (lines, log) := members settings [] assets.textStyles
    (some (SourceFile.ofLines className
      (imports ++ ["", "class " ++ className ++ " \x7b"] ++ lines ++ ["\x7d", ""])), log)

end DesignExport.TextStyleClass
