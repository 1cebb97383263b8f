import DesignExport.Color
set_option autoImplicit false

/-! Literals of generated Dart code. -/

namespace DesignExport.Dart

variable {α : Type} [Scalar α]

/-- A measure: one decimal place and the configured unit. -/
def dimension (value : α) (unit : String) : String :=
  Scalar.fixed value 1 ++ unit

/-- How a character is written between single quotes; a carriage return is dropped. -/
def escape (char : Char) : List Char :=
  if char = '\\' then ['\\', '\\']
  else if char = '\'' then ['\\', '\'']
  else if char = '$' then ['\\', '$']
  else if char = '\n' then ['\\', 'n']
  else if char = '\r' then []
  else if char = '\t' then ['\\', 't']
  else [char]

/-- A single-quoted string literal. -/
def stringLiteral (text : String) : String :=
  "'" ++ String.ofList (text.toList.flatMap escape) ++ "'"

/-- A colour whose alpha channel is scaled by an opacity. -/
def colorLiteral (color : Color) (opacity : α) : String :=
  "const Color(0x" ++ color.toArgbHex opacity ++ ")"

end DesignExport.Dart
