import DesignExport.Compile.Scope
import DesignExport.Dart.Literal
import DesignExport.Naming
set_option autoImplicit false

/-! Source files of generated code, and the file of a widget: imports, a class
with a field for each parameter, a constructor and the build methods, and the
constants for pictures. -/

namespace DesignExport

structure SourceFile where
  className : String
  fileName : String
  source : String
deriving DecidableEq

namespace SourceFile

def ofLines (className : String) (lines : List String) : SourceFile :=
  ⟨className, Naming.fileName className, String.intercalate "\n" lines⟩

def materialImport : String := "import 'package:flutter/material.dart';"

/-- With null safety a parameter that may be left out and has no default may be
null. -/
def fieldType (param : Parameter) (nullSafe : Bool) : String :=
  if nullSafe && param.default.isNone && !param.isRequired then param.type.name ++ "?"
  else param.type.name

def field (nullSafe : Bool) (param : Parameter) : String :=
  "  final " ++ fieldType param nullSafe ++ " " ++ param.name ++ ";"

def constructorArgument (nullSafe : Bool) (param : Parameter) : String :=
  if param.isRequired then
    if nullSafe then "required this." ++ param.name else "@required this." ++ param.name
  else
    match param.default with
    | some value => "this." ++ param.name ++ " = " ++ value
    | none => "this." ++ param.name

def keyArgument (nullSafe : Bool) : String :=
  if nullSafe then "Key? key" else "Key key"

def constructor (className : String) (params : List Parameter) (nullSafe : Bool) : String :=
  let arguments := keyArgument nullSafe :: params.map (constructorArgument nullSafe)
  className ++ "(\x7b" ++ String.intercalate ", " arguments ++ ",\x7d) : super(key: key);"

def method (name code : String) : String :=
  "  Widget " ++ name ++ "(BuildContext context) \x7b\n    return " ++ code ++ ";\n  \x7d"

def pictureConstant (name markup : String) : String :=
  "const String " ++ name ++ " = " ++ Dart.stringLiteral markup ++ ";"

/-- Lines with an empty line in front of each. -/
def spaced (lines : List String) : List String :=
  lines.flatMap (fun line => ["", line])

/-- The file of a widget. -/
def ofWidget (className body : String) (scope : WidgetScope) (nullSafe : Bool) : SourceFile :=
  let params := scope.params.map Prod.snd
  ofLines className
    ([materialImport] ++ scope.imports.filter (· ≠ materialImport) ++
      ["", "class " ++ className ++ " extends StatelessWidget \x7b"] ++
      params.map (field nullSafe) ++
      ["  " ++ constructor className params nullSafe, "", "  @override", method "build" body] ++
      spaced (scope.methods.map (fun (name, code) => method name code)) ++ ["\x7d"] ++
      spaced (scope.pictures.map (fun (name, markup) => pictureConstant name markup)) ++ [""])

end SourceFile

end DesignExport
