import DesignExport.Number.Scalar
set_option autoImplicit false

/-! Colours of four eight-bit channels and their hexadecimal notations. -/

namespace DesignExport

structure Color where
  red : UInt8
  green : UInt8
  blue : UInt8
  alpha : UInt8 := 255
deriving DecidableEq, Repr, Inhabited

namespace Color

def hexDigit (value : Nat) : Char :=
  "0123456789abcdef".toList.getD value '0'

/-- Two lower-case digits. -/
def hexByte (value : UInt8) : List Char :=
  [hexDigit (value.toNat / 16), hexDigit (value.toNat % 16)]

def hexValue? (char : Char) : Option Nat :=
  if '0' ≤ char && char ≤ '9' then some (char.toNat - '0'.toNat)
  else if 'a' ≤ char && char ≤ 'f' then some (char.toNat - 'a'.toNat + 10)
  else if 'A' ≤ char && char ≤ 'F' then some (char.toNat - 'A'.toNat + 10)
  else none

/-- Two digits make a byte. A plus sign may stand in place of a leading zero. -/
def readByte? (first second : Char) : Option UInt8 :=
  match hexValue? second with
  | none => none
  | some low =>
      if first = '+' then some (UInt8.ofNat low)
      else (hexValue? first).map (fun high => UInt8.ofNat (16 * high + low))

/-- Reads `#rrggbb` and `#rrggbbaa` after any number of leading number signs. -/
def ofHex? (text : String) : Option Color :=
  match text.toList.dropWhile (· = '#') with
  | [a, b, c, d, e, f] => do
      some ⟨← readByte? a b, ← readByte? c d, ← readByte? e f, 255⟩
  | [a, b, c, d, e, f, g, h] => do
      some ⟨← readByte? a b, ← readByte? c d, ← readByte? e f, ← readByte? g h⟩
  | _ => none

/-- `#rrggbb`, without the alpha channel. -/
def toHex (color : Color) : String :=
  "#" ++ String.ofList (hexByte color.red ++ hexByte color.green ++ hexByte color.blue)

variable {α : Type} [Scalar α]

/-- The alpha channel as a fraction. -/
def opacity (color : Color) : α :=
  Scalar.ofNat color.alpha.toNat / 255.0

/-- The alpha channel after a further opacity, which counts as zero to one. -/
def scaledAlpha (color : Color) (opacity : α) : UInt8 :=
  Scalar.toByte (Scalar.round (Scalar.ofNat color.alpha.toNat * Scalar.clampToUnit opacity))

/-- `aarrggbb` with the alpha channel scaled by an opacity. -/
def toArgbHex (color : Color) (opacity : α) : String :=
  String.ofList (hexByte (color.scaledAlpha opacity) ++ hexByte color.red ++ hexByte color.green ++
    hexByte color.blue)

end Color

end DesignExport
