import DesignExport.Number.Layout
set_option autoImplicit false

/-! The numbers that measures, colours and positions are computed with. The
compiler is written once over this interface. At `Float` it is the program;
at `Rat` it is the same program in exact arithmetic. -/

namespace DesignExport

class Scalar (α : Type) extends
    Add α, Sub α, Mul α, Div α, Neg α, LT α, LE α, BEq α, OfScientific α where
  decidableLT : DecidableLT α
  decidableLE : DecidableLE α
  ofNat : Nat → α
  /-- Neither infinite nor undefined. -/
  isFinite : α → Bool
  abs : α → α
  floor : α → α
  /-- The nearest whole number; halves go away from zero. -/
  round : α → α
  /-- The whole part, brought into the range of a byte. -/
  toByte : α → UInt8
  /-- The shortest decimal text, without exponent. -/
  text : α → String

namespace Scalar

variable {α : Type} [Scalar α]

instance : DecidableLT α := Scalar.decidableLT
instance : DecidableLE α := Scalar.decidableLE
instance : Inhabited α := ⟨0.0⟩

/-- The undefined number differs from itself. -/
def isUndefined (value : α) : Bool :=
  !(value == value)

/-- The lesser of two; an undefined operand yields the other one, and of two
equal operands the first is kept. -/
def least (first second : α) : α :=
  if isUndefined first then second else if second < first then second else first

def greatest (first second : α) : α :=
  if isUndefined first then second else if first < second then second else first

/-- The value, or the bound if the value does not exceed it. -/
def atLeast (bound value : α) : α :=
  if bound < value then value else bound

/-- Brings a number into the range from zero to one. -/
def clampToUnit (value : α) : α :=
  let raised := if value < 0.0 then 0.0 else value
  if 1.0 < raised then 1.0 else raised

/-- Squares the base along the binary digits of the exponent. `fuel` bounds the
number of digits. -/
def powerWithin : Nat → Nat → α → α → α
  | 0, _, _, result => result
  | fuel + 1, exponent, base, result =>
      if exponent = 0 then result
      else powerWithin fuel (exponent / 2) (base * base)
        (if exponent % 2 = 1 then result * base else result)

/-- A negative exponent gives the reciprocal of a power. -/
def power (base : α) : Int → α
  | .ofNat exponent => powerWithin exponent exponent base 1.0
  | .negSucc exponent => 1.0 / powerWithin (exponent + 1) (exponent + 1) base 1.0

/-- Rounds to a number of decimal places, or with a negative number to tens,
hundreds and so on. -/
def roundToPlace (value : α) (places : Int) : α :=
  let unit : α := power 10.0 places
  round (value * unit) / unit

/-- Rounds to a number of decimal places. A count is kept in 32 bits with a sign,
so that the greatest counts stand for negative ones. -/
def roundTo (value : α) (places : Nat) : α :=
  roundToPlace value (Int.bmod places 4294967296)

/-- Rounded text. What is not finite reads `0`, and zero has no sign. -/
def fixed (value : α) (places : Nat) : String :=
  if isFinite value then
    let rounded := roundTo value places
    text (if rounded == 0.0 then 0.0 else rounded)
  else "0"

end Scalar

instance : Scalar Float where
  decidableLT := inferInstance
  decidableLE := inferInstance
  ofNat := Float.ofNat
  isFinite := Float.isFinite
  abs := Float.abs
  floor := Float.floor
  round := Float.round
  toByte := Float.toUInt8
  text := Number.plain.write

end DesignExport
