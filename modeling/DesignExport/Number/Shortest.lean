set_option autoImplicit false

/-! The shortest decimal that reads back as a given binary number. A finite
positive double is `significand * 2 ^ exponent`; every real number of its
rounding interval reads back as that double. The digits are taken on the
coarsest decimal grid with a point in the interval, so no decimal with a larger
power of ten reads back. All comparisons are between natural numbers. -/

namespace DesignExport.Number

/-- A finite positive double as `significand * 2 ^ exponent`. -/
structure Binary where
  significand : Nat
  exponent : Int
  /-- The double below is only half as far away as the double above. -/
  gapNarrowsBelow : Bool
deriving Repr, DecidableEq

/-- A decimal `digits * 10 ^ exponent`. -/
structure Decimal where
  digits : Nat
  exponent : Int
deriving Repr, DecidableEq, Inhabited

/-- Reads the exponent field and the fraction field of the 64 bits; the sign is
left out. Numbers with exponent field zero have no implicit leading bit. -/
def Binary.ofBits (bits : UInt64) : Binary :=
  let fraction : Nat := bits.toNat % Nat.pow 2 52
  let field : Nat := bits.toNat / Nat.pow 2 52 % Nat.pow 2 11
  if field = 0 then ⟨fraction, -1074, false⟩
  else ⟨fraction + Nat.pow 2 52, (field : Int) - 1075, fraction = 0 && 1 < field⟩

/-- Four times the bounds of the rounding interval, in units of the exponent. -/
def Binary.lower (number : Binary) : Nat :=
  4 * number.significand - (if number.gapNarrowsBelow then 1 else 2)

def Binary.upper (number : Binary) : Nat :=
  4 * number.significand + 2

/-- An even significand owns both ends of its interval. -/
def Binary.ownsEnds (number : Binary) : Bool :=
  number.significand % 2 = 0

/-- Factors that bring `4 * significand * 2 ^ (exponent - 2)` and
`digits * 10 ^ grid` to whole numbers of one common unit. -/
def Binary.factors (number : Binary) (grid : Int) : Nat × Nat :=
  let shift := number.exponent - 2
  (Nat.pow 2 shift.toNat * Nat.pow 10 (-grid).toNat, Nat.pow 10 grid.toNat * Nat.pow 2 (-shift).toNat)

/-- Whether `digits * 10 ^ grid` reads back as the number. -/
def Binary.accepts (number : Binary) (grid : Int) (digits : Nat) : Bool :=
  let (binary, decimal) := number.factors grid
  let point := digits * decimal
  if number.ownsEnds then
    number.lower * binary ≤ point && point ≤ number.upper * binary
  else
    number.lower * binary < point && point < number.upper * binary

/-- The grid point that reads back, the nearer of two; a tie goes up. -/
def Binary.onGrid? (number : Binary) (grid : Int) : Option Nat :=
  let (binary, decimal) := number.factors grid
  let exact := 4 * number.significand * binary
  let below := exact / decimal
  let above := below + 1
  match number.accepts grid below, number.accepts grid above with
  | true, true => some (if above * decimal - exact ≤ exact - below * decimal then above else below)
  | true, false => some below
  | false, true => some above
  | false, false => none

/-- Tries grids from coarse to fine. -/
def Binary.search (number : Binary) : Nat → Int → Decimal
  | 0, grid => ⟨number.significand, grid⟩
  | steps + 1, grid =>
      match number.onGrid? grid with
      | some digits => ⟨digits, grid⟩
      | none => number.search steps (grid - 1)

/-- A power of ten above the number, at most two decades too high. -/
def Binary.magnitude (number : Binary) : Int :=
  ((number.significand.log2 + 1 : Int) + number.exponent) * 30103 / 100000 + 1

def Binary.shortest (number : Binary) : Decimal :=
  number.search 800 number.magnitude

end DesignExport.Number
