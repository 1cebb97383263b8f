import DesignExport.Json.Reading
set_option autoImplicit false

/-! Numbers in JSON texts. A numeral without fraction and exponent is a whole
number if 64 bits hold it. Any other is its first digits, as many as fit into 64
bits, scaled by a power of ten in floating point. -/

namespace DesignExport.Json

/-- Digits taken into a significand of 64 bits: the significand, how many digits
it took, and how many were left over. -/
def gatherDigits (significand taken : Nat) : List Char → Nat × Nat × Nat
  | [] => (significand, taken, 0)
  | digit :: digits =>
      let longer := 10 * significand + (digit.toNat - '0'.toNat)
      if longer < Nat.pow 2 64 then gatherDigits longer (taken + 1) digits
      else (significand, taken, digits.length + 1)

/-- Divides by large powers of ten in several steps. `none`: out of range. -/
def scaleDown (value : Float) : Nat → Nat → Option Float
  | 0, _ => some value
  | steps + 1, places =>
      if places ≤ 308 then some (value / Float.ofScientific 1 false places)
      else if value == 0.0 then some value
      else scaleDown (value / 1e308) steps (places - 308)

def scale? (significand : Nat) (exponent : Int) : Option Float :=
  let value := Float.ofNat significand
  if exponent < 0 then scaleDown value 4 exponent.natAbs
  else if exponent ≤ 308 then
    let scaled := value * Float.ofScientific 1 false exponent.toNat
    if scaled.isInf then none else some scaled
  else if value == 0.0 then some value
  else none

/-- The parts of a numeral after its sign. -/
structure Numeral where
  whole : List Char
  /-- Digits behind the point, if there is one. -/
  fraction : Option (List Char)
  /-- Whether the exponent is negative, and its digits. -/
  exponent : Option (Bool × List Char)

def signed (negative : Bool) (value : Float) : Float :=
  if negative then -value else value

/-- An exponent whose digits exceed 31 bits decides between zero and a number
without bounds. -/
def Numeral.scaled? (numeral : Numeral) (negative : Bool) : Option Float :=
  let (whole, _, dropped) := gatherDigits 0 0 numeral.whole
  let (significand, places, _) := gatherDigits whole 0 (numeral.fraction.getD [])
  let start : Int := (dropped : Int) - places
  match numeral.exponent with
  | none => (scale? significand start).map (signed negative)
  | some (downward, digits) =>
      let size := digits.foldl (fun size digit => 10 * size + (digit.toNat - '0'.toNat)) 0
      if size < Nat.pow 2 31 then
        (scale? significand (if downward then start - size else start + size)).map (signed negative)
      else if significand = 0 || downward then some (signed negative 0.0)
      else none

/-- A numeral out of range has no value. -/
def Numeral.value? (numeral : Numeral) (negative : Bool) : Option Number :=
  match numeral.fraction, numeral.exponent with
  | none, none =>
      let (whole, _, dropped) := gatherDigits 0 0 numeral.whole
      if dropped = 0 && !negative then some (.whole whole)
      else if dropped = 0 && 0 < whole && whole ≤ Nat.pow 2 63 then some (.whole (-(whole : Int)))
      else (numeral.scaled? negative).map .fraction
  | _, _ => (numeral.scaled? negative).map .fraction

def takeDigits (chars : List Char) : List Char × List Char :=
  (chars.takeWhile Char.isDigit, chars.dropWhile Char.isDigit)

/-- At the end of the text a numeral is cut short for its reader, while one that
passes over it finds it malformed. -/
def missingDigit (rest : List Char) : Reading × Option (List Char) :=
  if rest.isEmpty then (.flawed .cutShort (.broken .malformed), none)
  else (.flawed .malformed (.broken .malformed), none)

def finishNumeral (numeral : Numeral) (negative : Bool) (rest : List Char) :
    Reading × Option (List Char) :=
  match numeral.value? negative with
  | some value => (.number value, some rest)
  | none => (.flawed .malformed (.number (.whole 0)), some rest)

def scanExponent (numeral : Numeral) (negative : Bool) : List Char → Reading × Option (List Char)
  | [] => finishNumeral numeral negative []
  | char :: chars =>
      if char = 'e' || char = 'E' then
        let (downward, afterSign) := match chars with
          | '+' :: rest => (false, rest)
          | '-' :: rest => (true, rest)
          | _ => (false, chars)
        let (digits, rest) := takeDigits afterSign
        if digits.isEmpty then missingDigit afterSign
        else finishNumeral { numeral with exponent := some (downward, digits) } negative rest
      else finishNumeral numeral negative (char :: chars)

def scanFraction (numeral : Numeral) (negative : Bool) : List Char → Reading × Option (List Char)
  | '.' :: chars =>
      let (digits, rest) := takeDigits chars
      if digits.isEmpty then missingDigit chars
      else scanExponent { numeral with fraction := some digits } negative rest
  | chars => scanExponent numeral negative chars

/-- Scans a numeral after its sign; more digits may not follow a leading zero. -/
def scanNumeral (negative : Bool) (chars : List Char) : Reading × Option (List Char) :=
  let (digits, rest) := takeDigits chars
  match digits with
  | [] => missingDigit chars
  | '0' :: _ :: _ => (.flawed .malformed (.broken .malformed), none)
  | _ => scanFraction ⟨digits, none, none⟩ negative rest

end DesignExport.Json
