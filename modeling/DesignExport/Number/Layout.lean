import DesignExport.Number.Shortest
set_option autoImplicit false

/-! How a double is written: with a decimal point at its place however many
zeros that takes, or with an exponent outside a range of magnitudes. -/

namespace DesignExport.Number

/-- The choices that two written forms of the same digits differ in. -/
structure Style where
  /-- Numbers of this many whole digits or fewer are written without exponent. -/
  wholeDigits : Option Nat
  /-- Up to this many zeros may follow the point before the first digit. -/
  leadingZeros : Option Nat
  /-- Whole numbers end in `.0`. -/
  keepsFraction : Bool

/-- Never an exponent and never a superfluous fraction. -/
def plain : Style := ⟨none, none, false⟩

/-- JSON documents: an exponent from seventeen whole digits and from six zeros
after the point, and a fraction on whole numbers. -/
def json : Style := ⟨some 16, some 4, true⟩

def zeros (count : Nat) : String :=
  String.ofList (List.replicate count '0')

private def withinLimit (limit : Option Nat) (count : Nat) : Bool :=
  match limit with
  | none => true
  | some most => count ≤ most

/-- The digits stand for `digits * 10 ^ exponent`; `point` counts the digits
before the decimal point and may be negative. -/
def Style.writeDecimal (style : Style) (decimal : Decimal) : String :=
  let digits := Nat.toDigits 10 decimal.digits
  let count := digits.length
  let point := (count : Int) + decimal.exponent
  let fraction := if style.keepsFraction then ".0" else ""
  if 0 ≤ decimal.exponent && withinLimit style.wholeDigits point.toNat then
    String.ofList digits ++ zeros decimal.exponent.toNat ++ fraction
  else if decimal.exponent < 0 && 0 < point && withinLimit style.wholeDigits point.toNat then
    String.ofList (digits.take point.toNat) ++ "." ++ String.ofList (digits.drop point.toNat)
  else if point ≤ 0 && withinLimit style.leadingZeros (-point).toNat then
    "0." ++ zeros (-point).toNat ++ String.ofList digits
  else
    let head := String.ofList (digits.take 1)
    let tail := if count = 1 then "" else "." ++ String.ofList (digits.drop 1)
    head ++ tail ++ "e" ++ toString (point - 1)

/-- Zeros keep their sign; the infinities and the number that is none have names. -/
def Style.write (style : Style) (value : Float) : String :=
  if value.isNaN then "NaN"
  else
    let sign := if value.toBits.toNat / Nat.pow 2 63 = 1 then "-" else ""
    if value.isInf then sign ++ "inf"
    else if value == 0.0 then sign ++ "0" ++ (if style.keepsFraction then ".0" else "")
    else sign ++ style.writeDecimal (Binary.ofBits value.toBits).shortest

end DesignExport.Number
