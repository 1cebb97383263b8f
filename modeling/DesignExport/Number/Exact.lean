import DesignExport.Number.Scalar
set_option autoImplicit false

/-! Exact rational numbers as scalars. A rational whose denominator divides a
power of ten is written as that finite decimal, any other as a fraction. -/

namespace DesignExport.Number

/-- Halves go away from zero. -/
def roundRational (value : Rat) : Rat :=
  if value < 0 then -(((-value + 1 / 2).floor : Int) : Rat)
  else (((value + 1 / 2).floor : Int) : Rat)

/-- Twos and fives in the denominator bound the places that are needed. -/
def decimalPlaces? (denominator : Nat) : Option Nat :=
  (List.range (denominator.log2 + 1)).find? (fun places => Nat.pow 10 places % denominator = 0)

def writeRational (value : Rat) : String :=
  match decimalPlaces? value.den with
  | none => toString value.num ++ "/" ++ toString value.den
  | some places =>
      let scaled := value.num.natAbs * Nat.pow 10 places / value.den
      let sign := if value.num < 0 then "-" else ""
      if scaled = 0 then "0" else sign ++ plain.writeDecimal ⟨scaled, -(places : Int)⟩

def byteOfRational (value : Rat) : UInt8 :=
  UInt8.ofNat (min 255 value.floor.toNat)

end DesignExport.Number

namespace DesignExport

instance : Scalar Rat where
  decidableLT := inferInstance
  decidableLE := inferInstance
  ofNat := fun count => (count : Rat)
  isFinite := fun _ => true
  abs := fun value => if value < 0 then -value else value
  floor := fun value => (value.floor : Rat)
  round := Number.roundRational
  toByte := Number.byteOfRational
  text := Number.writeRational

end DesignExport
