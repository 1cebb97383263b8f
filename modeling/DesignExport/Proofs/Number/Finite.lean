import DesignExport.Json.Numeral
import Mathlib
set_option autoImplicit false

/-! Doubles that stay finite. An operation rounds a mantissa and an exponent to what a double
can hold. Here the magnitude of its result is bounded by a power of two, which is enough to
tell that reading a numeral never leaves the finite numbers. -/

namespace DesignExport.Number

open Float.Model (Format UnpackedFloat)
open Float.Model.UnpackedFloat

/-- A double is a zero, or its magnitude is below a power of two. -/
inductive Below (bound : Int) : UnpackedFloat → Prop where
  | zero (sign : Sign) : Below bound (.zero sign)
  | finite {sign : Sign} {mantissa width : Nat} {exponent : Int} {positive : 0 < mantissa}
      (narrow : mantissa < 2 ^ width) (reach : width + exponent ≤ bound) :
      Below bound (.finite sign mantissa exponent positive)

/-- The exponent of a double is not too large for a finite one. -/
inductive Fits : UnpackedFloat → Prop where
  | zero (sign : Sign) : Fits (.zero sign)
  | finite {sign : Sign} {mantissa : Nat} {exponent : Int} {positive : 0 < mantissa}
      (held : exponent ≤ 971) : Fits (.finite sign mantissa exponent positive)

theorem Below.fits {bound : Int} (small : bound ≤ 972) {value : UnpackedFloat}
    (below : Below bound value) : Fits value := by
  cases below with
  | zero sign => exact .zero sign
  | @finite sign mantissa width exponent positive narrow reach =>
      have wide : width ≠ 0 := by
        rintro rfl
        omega
      exact .finite (by omega)

theorem Below.isFinite {bound : Int} {value : UnpackedFloat} (below : Below bound value) :
    value.isFinite = true := by
  cases below with
  | zero => rfl
  | finite => rfl

/-! ### Packing -/

/-- The leading bit of a normal mantissa is not stored. -/
theorem toNat_implicit (mantissa : BitVec 52) : (1#1 ++ mantissa).toNat = 2 ^ 52 + mantissa.toNat := by
  rw [BitVec.toNat_append, ← Nat.shiftLeft_add_eq_or_of_lt mantissa.isLt]
  simp [Nat.shiftLeft_eq]

section Bits

variable {bits : BitVec Format.binary64.numBits}

/-- What is unpacked is a zero, a subnormal number or a normal one. -/
theorem unpack_of_ordinary (ordinary : unpackExponent bits ≠ -1#_) :
    (∃ sign, unpack Format.binary64 bits = .zero sign) ∨
      (∃ sign mantissa positive, unpack Format.binary64 bits = .finite sign mantissa (-1074) positive ∧
        mantissa < 2 ^ 52 ∧ unpackExponent bits = 0#11) ∨
      ∃ sign positive, unpack Format.binary64 bits = .finite sign (1#1 ++ unpackMantissa bits).toNat
        ((unpackExponent bits).toNat - 1075) positive := by
  rw [unpack]
  simp only [ordinary, if_false]
  split
  case isTrue lowest =>
    split
    case isTrue => exact Or.inl ⟨_, rfl⟩
    case isFalse =>
      right
      left
      have positive : 0 < (unpackMantissa bits).toNat := by
        simpa [BitVec.toNat_pos, BitVec.pos_iff_ne_zero]
      have exponent : ((unpackExponent bits).toNat : Int) -
          (Format.binary64.exponentBias + Format.binary64.mantissaBitsWithoutImplicit) + 1 = -1074 := by
        rw [lowest]
        rfl
      simp only [exponent]
      exact ⟨Sign.ofBitVec (unpackSign bits), (unpackMantissa bits).toNat, positive, rfl,
        (unpackMantissa bits).isLt, lowest⟩
  case isFalse =>
    right
    right
    have positive : 0 < (1#1 ++ unpackMantissa bits).toNat := by
      rw [toNat_implicit]
      omega
    exact ⟨Sign.ofBitVec (unpackSign bits), positive, rfl⟩

theorem isFinite_unpack :
    (unpack Format.binary64 bits).isFinite = true ↔ unpackExponent bits ≠ -1#_ := by
  constructor
  · intro finite top
    rw [unpack] at finite
    simp only [top, if_true] at finite
    split at finite <;> cases finite
  · intro ordinary
    rcases unpack_of_ordinary ordinary with
      ⟨sign, own⟩ | ⟨sign, mantissa, positive, own, -⟩ | ⟨sign, positive, own⟩ <;> rw [own] <;> rfl

theorem below_unpack (ordinary : unpackExponent bits ≠ -1#_) {bound : Int} (least : -1022 ≤ bound)
    (upper : (unpackExponent bits).toNat - 1022 ≤ bound) :
    Below bound (unpack Format.binary64 bits) := by
  rcases unpack_of_ordinary ordinary with
    ⟨sign, own⟩ | ⟨sign, mantissa, positive, own, small, -⟩ | ⟨sign, positive, own⟩
  · rw [own]
    exact .zero sign
  · rw [own]
    exact .finite small (by omega)
  · rw [own]
    have narrow : (1#1 ++ unpackMantissa bits).toNat < 2 ^ 53 := (1#1 ++ unpackMantissa bits).isLt
    exact .finite narrow (by omega)

theorem fits_unpack (ordinary : unpackExponent bits ≠ -1#_) :
    Fits (unpack Format.binary64 bits) := by
  rcases unpack_of_ordinary ordinary with
    ⟨sign, own⟩ | ⟨sign, mantissa, positive, own, small, -⟩ | ⟨sign, positive, own⟩
  · rw [own]
    exact .zero sign
  · rw [own]
    exact .finite (by decide)
  · rw [own]
    have range : (unpackExponent bits).toNat < 2 ^ 11 := (unpackExponent bits).isLt
    have different : (unpackExponent bits).toNat ≠ 2047 := by
      intro same
      apply ordinary
      apply BitVec.eq_of_toNat_eq
      rw [same]
      rfl
    exact .finite (by omega)

end Bits

theorem exponent_ne_top {exponent : Nat} (small : exponent < 2047) :
    BitVec.ofNat 11 exponent ≠ -1#11 := by
  intro same
  have equal := congrArg BitVec.toNat same
  rw [BitVec.toNat_ofNat, Nat.mod_eq_of_lt (by omega)] at equal
  simp at equal
  omega

/-- A finite number is packed with its own exponent or, where its mantissa is short, with the
lowest one. -/
theorem pack_finite {exponent : Int} (fits : exponent ≤ 971) (sign : Sign) (mantissa : Nat)
    (positive : 0 < mantissa) :
    pack Format.binary64 (.finite sign mantissa exponent positive) =
      packComponents Format.binary64 sign
        (if mantissa.log2 = 52 then BitVec.ofNat 11 (exponent + 1075).toNat else 0#11)
        (BitVec.ofNat 52 mantissa) := by
  have biased : exponent + Format.binary64.exponentBias +
      Format.binary64.mantissaBitsWithoutImplicit = exponent + 1075 := by
    simp [Format.exponentBias]
    omega
  have room : ¬2 ^ Format.binary64.exponentBits ≤ (exponent + 1075).toNat + 1 := by
    change ¬2048 ≤ (exponent + 1075).toNat + 1
    omega
  have length : mantissa.log2 + 1 = Format.binary64.mantissaBits ↔ mantissa.log2 = 52 := by
    change mantissa.log2 + 1 = 1 + 52 ↔ mantissa.log2 = 52
    omega
  simp only [pack, biased, room, if_false, length]
  split <;> rfl

theorem unpackExponent_pack_ne {value : UnpackedFloat} (fits : Fits value) :
    unpackExponent (pack Format.binary64 value) ≠ -1#_ := by
  cases fits with
  | zero sign =>
      rw [pack, packedZero, unpackExponent_packComponents]
      decide
  | finite held =>
      rw [pack_finite held, unpackExponent_packComponents]
      split
      case isTrue => exact exponent_ne_top (by omega)
      case isFalse => decide

theorem Fits.isFinite_pack {value : UnpackedFloat} (fits : Fits value) :
    (Float.Model.pack value).isFinite = true :=
  isFinite_unpack.mpr (unpackExponent_pack_ne fits)

theorem Below.pack {bound : Int} (least : -1022 ≤ bound) (most : bound ≤ 972)
    {value : UnpackedFloat} (below : Below bound value) :
    Below bound (Float.Model.pack value).unpack := by
  have fits := below.fits most
  apply below_unpack (unpackExponent_pack_ne fits) least
  cases below with
  | zero sign =>
      rw [UnpackedFloat.pack, packedZero, unpackExponent_packComponents]
      simpa using least
  | @finite sign mantissa width exponent positive narrow reach =>
      cases fits with | finite held => ?_
      rw [pack_finite held, unpackExponent_packComponents]
      split
      case isTrue normal =>
        have wide : 52 < width := by
          rw [← normal]
          exact (Nat.log2_lt (by omega)).mpr narrow
        rw [BitVec.toNat_ofNat, Nat.mod_eq_of_lt (by change _ < 2048; omega)]
        omega
      case isFalse => simpa using least

/-! ### Rounding -/

theorem mantissa_shiftRight (extended : ExtendedMantissa) (places : Nat) :
    (extended >>> places).mantissa = extended.mantissa / 2 ^ places := by
  induction places with
  | zero => simp [HShiftRight.hShiftRight, Nat.repeat]
  | succ places ih =>
      change (extended >>> places).mantissa / 2 = _
      rw [ih, Nat.div_div_eq_div_mul, Nat.pow_succ]

theorem mantissa_ofMantissaAndAccuracy (mantissa : Nat) (accuracy : Accuracy) :
    (ExtendedMantissa.ofMantissaAndAccuracy mantissa accuracy).mantissa = mantissa := by
  cases accuracy with
  | exact => rfl
  | inexact order => cases order <;> rfl

theorem roundedMantissa_le (extended : ExtendedMantissa) :
    extended.roundedMantissa ≤ extended.mantissa + 1 := by
  obtain ⟨mantissa, roundBit, stickyBit⟩ := extended
  cases roundBit <;> cases stickyBit <;>
    simp [ExtendedMantissa.roundedMantissa, ExtendedMantissa.accuracy, Accuracy.roundToNearestEven]
  omega

theorem le_roundedMantissa (extended : ExtendedMantissa) :
    extended.mantissa ≤ extended.roundedMantissa := by
  obtain ⟨mantissa, roundBit, stickyBit⟩ := extended
  cases roundBit <;> cases stickyBit <;>
    simp [ExtendedMantissa.roundedMantissa, ExtendedMantissa.accuracy, Accuracy.roundToNearestEven]

/-- How many places a mantissa is shifted by. -/
def shiftOf (mantissa : Nat) (exponent : Int) : Nat :=
  (max ((mantissa.log2 : Int) + exponent - 52) (-1074) - exponent).toNat

theorem shiftToTargetExponent_eq (mantissa : Nat) (exponent : Int) (accuracy : Accuracy) :
    (shiftToTargetExponent Format.binary64 mantissa exponent accuracy).1.mantissa =
        mantissa / 2 ^ shiftOf mantissa exponent ∧
      (shiftToTargetExponent Format.binary64 mantissa exponent accuracy).2 =
        exponent + shiftOf mantissa exponent := by
  have target : Format.binary64.targetExponent (Float.Model.totalExponent mantissa exponent) =
      max ((mantissa.log2 : Int) + exponent - 52) (-1074) := by
    simp only [Format.targetExponent, Float.Model.totalExponent, Format.mantissaBits,
      Format.minExponent]
    omega
  rw [shiftToTargetExponent, target, shiftToExponent]
  refine ⟨?_, rfl⟩
  rw [mantissa_shiftRight, mantissa_ofMantissaAndAccuracy]
  rfl

theorem lt_two_pow_of_shift {mantissa width places : Nat} (narrow : mantissa < 2 ^ width)
    (le : places ≤ width) : mantissa / 2 ^ places < 2 ^ (width - places) := by
  apply Nat.div_lt_of_lt_mul
  rw [← Nat.pow_add, Nat.add_sub_cancel' le]
  exact narrow

theorem log2_le_of_lt {mantissa width : Nat} (narrow : mantissa < 2 ^ width) :
    mantissa.log2 ≤ width := by
  by_cases none : mantissa = 0
  · rw [none]
    simp
  · exact Nat.le_of_lt ((Nat.log2_lt none).mpr narrow)

/-- Rounding at most doubles the magnitude. -/
theorem below_roundWithAccuracy {bound : Int} (least : -1074 < bound) {width mantissa : Nat}
    {exponent : Int} (narrow : mantissa < 2 ^ width) (sum : width + exponent < bound)
    (sign : Sign) (accuracy : Accuracy) :
    Below bound (roundWithAccuracy Format.binary64 sign mantissa exponent accuracy) := by
  rw [roundWithAccuracy]
  obtain ⟨first, raised⟩ := shiftToTargetExponent_eq mantissa exponent accuracy
  generalize shiftToTargetExponent Format.binary64 mantissa exponent accuracy = shifted at *
  obtain ⟨extended, exponent'⟩ := shifted
  dsimp only at *
  obtain ⟨second, raisedAgain⟩ := shiftToTargetExponent_eq extended.roundedMantissa exponent' .exact
  generalize shiftToTargetExponent Format.binary64 extended.roundedMantissa exponent' .exact =
    shifted at *
  obtain ⟨final, exponent''⟩ := shifted
  dsimp only at *
  -- the mantissa after the first shift and the rounding, and its width
  have rounded : ∃ wide : Nat, extended.roundedMantissa < 2 ^ wide ∧ wide + exponent' ≤ bound := by
    have upper := roundedMantissa_le extended
    have log := log2_le_of_lt narrow
    by_cases places : shiftOf mantissa exponent ≤ width
    · have shorter := lt_two_pow_of_shift narrow places
      refine ⟨width - shiftOf mantissa exponent + 1, ?_, by omega⟩
      rw [Nat.pow_succ]
      omega
    · have none : mantissa / 2 ^ shiftOf mantissa exponent = 0 := by
        apply Nat.div_eq_of_lt
        exact narrow.trans_le (Nat.pow_le_pow_right (by decide) (by omega))
      refine ⟨1, by omega, ?_⟩
      have raise : exponent' ≤ max exponent (max ((mantissa.log2 : Int) + exponent - 52) (-1074)) := by
        rw [raised, shiftOf]
        omega
      omega
  obtain ⟨wide, fewer, reach⟩ := rounded
  split
  case isTrue => exact .zero sign
  case isFalse some =>
    by_cases places : shiftOf extended.roundedMantissa exponent' ≤ wide
    · have shorter := lt_two_pow_of_shift fewer places
      rw [← second] at shorter
      exact .finite shorter (by omega)
    · have none : extended.roundedMantissa / 2 ^ shiftOf extended.roundedMantissa exponent' = 0 := by
        apply Nat.div_eq_of_lt
        exact fewer.trans_le (Nat.pow_le_pow_right (by decide) (by omega))
      exact absurd (second.trans none) some

/-- A mantissa that is long enough fills the mantissa of a double. -/
theorem roundWithAccuracy_of_long {mantissa : Nat} {exponent : Int} (long : 52 ≤ mantissa.log2)
    (high : -1022 ≤ mantissa.log2 + exponent) (sign : Sign) (accuracy : Accuracy) :
    ∃ full exponent' positive,
      roundWithAccuracy Format.binary64 sign mantissa exponent accuracy =
        .finite sign full exponent' positive ∧ full.log2 = 52 ∧
        mantissa.log2 + exponent ≤ 52 + exponent' ∧ exponent' ≤ mantissa.log2 + exponent - 51 := by
  have some : mantissa ≠ 0 := by
    rintro rfl
    simp at long
  rw [roundWithAccuracy]
  obtain ⟨first, raised⟩ := shiftToTargetExponent_eq mantissa exponent accuracy
  generalize shiftToTargetExponent Format.binary64 mantissa exponent accuracy = shifted at *
  obtain ⟨extended, exponent'⟩ := shifted
  dsimp only at *
  obtain ⟨second, raisedAgain⟩ := shiftToTargetExponent_eq extended.roundedMantissa exponent' .exact
  generalize shiftToTargetExponent Format.binary64 extended.roundedMantissa exponent' .exact =
    shifted at *
  obtain ⟨final, exponent''⟩ := shifted
  dsimp only at *
  have places : shiftOf mantissa exponent = mantissa.log2 - 52 := by
    rw [shiftOf]
    omega
  have lower : 2 ^ 52 ≤ extended.mantissa := by
    rw [first, places, Nat.le_div_iff_mul_le (Nat.two_pow_pos _), ← Nat.pow_add,
      Nat.add_sub_cancel' long]
    exact Nat.log2_self_le some
  have upper : extended.mantissa < 2 ^ 53 := by
    rw [first, places]
    have whole : mantissa < 2 ^ (mantissa.log2 + 1) := Nat.lt_log2_self
    have fewer : mantissa.log2 - 52 ≤ mantissa.log2 + 1 := by omega
    have shorter := lt_two_pow_of_shift whole fewer
    rwa [show mantissa.log2 + 1 - (mantissa.log2 - 52) = 53 by omega] at shorter
  have rounded := le_roundedMantissa extended
  have roundedUp := roundedMantissa_le extended
  have nonzero : extended.roundedMantissa ≠ 0 := by omega
  have log : 52 ≤ extended.roundedMantissa.log2 := (Nat.le_log2 nonzero).mpr (by omega)
  have log' : extended.roundedMantissa.log2 < 54 := (Nat.log2_lt nonzero).mpr (by omega)
  have again : shiftOf extended.roundedMantissa exponent' = extended.roundedMantissa.log2 - 52 := by
    rw [shiftOf]
    omega
  have filled : final.mantissa.log2 = 52 := by
    rw [second, again]
    rcases (show extended.roundedMantissa.log2 = 52 ∨ extended.roundedMantissa.log2 = 53 by omega)
      with exact | carried
    · rw [exact, Nat.sub_self, Nat.pow_zero, Nat.div_one, exact]
    · rw [carried, Nat.log2_eq_iff (by omega)]
      have least : 2 ^ 53 ≤ extended.roundedMantissa := by
        rw [← carried]
        exact Nat.log2_self_le nonzero
      omega
  have positive : final.mantissa ≠ 0 := by
    intro none
    rw [none] at filled
    simp at filled
  rw [dif_neg positive]
  exact ⟨final.mantissa, exponent'', Nat.pos_of_ne_zero positive, rfl, filled, by omega, by omega⟩

/-! ### Operations -/

theorem isFinite_pack_or {value : UnpackedFloat} (finite : value.isFinite = true) :
    (Float.Model.pack value).isFinite = true ∨ (Float.Model.pack value).isInf = true := by
  by_cases fits : Fits value
  · exact Or.inl fits.isFinite_pack
  · right
    cases value with
    | infinity => cases finite
    | notANumber => cases finite
    | zero sign => exact absurd (Fits.zero sign) fits
    | finite sign mantissa exponent positive =>
        have high : ¬exponent ≤ 971 := fun held => fits (.finite held)
        have beyond : 2 ^ Format.binary64.exponentBits ≤ (exponent + Format.binary64.exponentBias +
            Format.binary64.mantissaBitsWithoutImplicit).toNat + 1 := by
          simp [Format.exponentBias]
          omega
        rw [Float.Model.isInf, Float.Model.unpack, Float.Model.pack]
        simp only [pack, beyond, if_true, packedInfinity]
        rw [unpack]
        simp [UnpackedFloat.isInf]

theorem isFinite_roundWithAccuracy (sign : Sign) (mantissa : Nat) (exponent : Int)
    (accuracy : Accuracy) :
    (roundWithAccuracy Format.binary64 sign mantissa exponent accuracy).isFinite = true := by
  simp only [roundWithAccuracy]
  split <;> rfl

/-- The product of finite numbers is undefined nowhere. -/
theorem isFinite_mul {first second : Float} (one : first.isFinite = true)
    (other : second.isFinite = true) (bounded : (first * second).isInf = false) :
    (first * second).isFinite = true := by
  have product : (UnpackedFloat.mul Format.binary64 first.toModel.unpack
      second.toModel.unpack).isFinite = true := by
    have one' : first.toModel.unpack.isFinite = true := one
    have other' : second.toModel.unpack.isFinite = true := other
    generalize first.toModel.unpack = left at *
    generalize second.toModel.unpack = right at *
    cases left with
    | infinity => cases one'
    | notANumber => cases one'
    | zero =>
        cases right with
        | infinity => cases other'
        | notANumber => cases other'
        | zero => rfl
        | finite => rfl
    | finite =>
        cases right with
        | infinity => cases other'
        | notANumber => cases other'
        | zero => rfl
        | finite => exact isFinite_roundWithAccuracy _ _ _ _
  rcases isFinite_pack_or product with finite | infinite
  · exact finite
  · have contrary : (first * second).isInf = true := infinite
    rw [contrary] at bounded
    cases bounded

theorem isFinite_neg {value : Float} (finite : value.isFinite = true) :
    (-value).isFinite = true := by
  have fits : Fits value.toModel.unpack := fits_unpack (isFinite_unpack.mp finite)
  have negated : Fits value.toModel.unpack.neg := by
    generalize value.toModel.unpack = own at *
    cases fits with
    | zero sign => exact .zero (-sign)
    | finite held => exact .finite held
  exact negated.isFinite_pack

/-- At least one, with a mantissa of full length. -/
def isAtLeastOne : UnpackedFloat → Bool
  | .finite _ mantissa exponent _ => mantissa.log2 = 52 && (-52 : Int) ≤ exponent
  | _ => false

/-- Dividing by a number that is not below one at most doubles the magnitude. -/
theorem Below.div {bound : Int} (least : -1074 ≤ bound) {value divisor : UnpackedFloat}
    (below : Below bound value) (large : isAtLeastOne divisor = true) :
    Below (bound + 1) (UnpackedFloat.div Format.binary64 value divisor) := by
  cases divisor with
  | zero => cases large
  | infinity => cases large
  | notANumber => cases large
  | finite sign divided lowest positive =>
    simp only [isAtLeastOne, Bool.and_eq_true, decide_eq_true_eq] at large
    obtain ⟨log, high⟩ := large
    have full : 2 ^ 52 ≤ divided := by
      rw [← log]
      exact Nat.log2_self_le (by omega)
    cases below with
    | zero sign' => exact .zero _
    | @finite sign' mantissa width exponent positive' narrow reach =>
      rw [UnpackedFloat.div, divCore]
      have log' : mantissa.log2 < width := (Nat.log2_lt (by omega)).mpr narrow
      generalize target : min (exponent - lowest) (Format.binary64.targetExponent
        (Float.Model.totalExponent mantissa exponent -
          Float.Model.totalExponent divided lowest)) = lowered
      have upper : lowered ≤ max (bound - 54) (-1074) := by
        simp only [Format.targetExponent, Float.Model.totalExponent, Format.mantissaBits,
          Format.minExponent] at target
        omega
      have difference : lowered ≤ exponent - lowest := by omega
      generalize places : (exponent - lowest - lowered).toNat = shift
      have shifted : mantissa <<< shift < 2 ^ (width + shift) := by
        rw [Nat.shiftLeft_eq, Nat.pow_add]
        exact Nat.mul_lt_mul_of_pos_right narrow (Nat.two_pow_pos shift)
      have quotient : mantissa <<< shift / divided ≤ mantissa <<< shift / 2 ^ 52 :=
        Nat.div_le_div_left full (Nat.two_pow_pos 52)
      by_cases enough : 52 ≤ width + shift
      · have shorter := lt_two_pow_of_shift shifted enough
        exact below_roundWithAccuracy (by omega) (quotient.trans_lt shorter) (by omega) _ _
      · have none : mantissa <<< shift / 2 ^ 52 = 0 := by
          apply Nat.div_eq_of_lt
          exact shifted.trans_le (Nat.pow_le_pow_right (by decide) (by omega))
        have zero : mantissa <<< shift / divided < 2 ^ 0 := by omega
        exact below_roundWithAccuracy (by omega) zero (by omega) _ _

theorem Below.mul {bound limit total : Int} (least : -1074 < total) (sum : bound + limit < total)
    {first second : UnpackedFloat} (one : Below bound first) (other : Below limit second) :
    Below total (UnpackedFloat.mul Format.binary64 first second) := by
  cases one with
  | zero sign =>
      cases other with
      | zero => exact .zero _
      | finite => exact .zero _
  | @finite sign mantissa width exponent positive narrow reach =>
      cases other with
      | zero => exact .zero _
      | @finite sign' mantissa' width' exponent' positive' narrow' reach' =>
          have product : mantissa * mantissa' < 2 ^ (width + width') := by
            rw [Nat.pow_add]
            exact Nat.mul_lt_mul'' narrow narrow'
          exact below_roundWithAccuracy least product (by omega) _ _

/-! ### Whole numbers and powers of ten -/

theorem isAtLeastOne_pack {mantissa : Nat} {exponent : Int} (full : mantissa.log2 = 52)
    (high : -52 ≤ exponent) (held : exponent ≤ 971) (sign : Sign) (positive : 0 < mantissa) :
    isAtLeastOne (Float.Model.pack (.finite sign mantissa exponent positive)).unpack = true := by
  have ordinary := exponent_ne_top (show (exponent + 1075).toNat < 2047 by omega)
  have stored : (BitVec.ofNat 11 (exponent + 1075).toNat).toNat = (exponent + 1075).toNat := by
    rw [BitVec.toNat_ofNat, Nat.mod_eq_of_lt (by change _ < 2048; omega)]
  have normal : BitVec.ofNat 11 (exponent + 1075).toNat ≠ 0#11 := by
    intro none
    rw [none] at stored
    simp at stored
    omega
  change isAtLeastOne (unpack Format.binary64 (pack Format.binary64 _)) = true
  rw [pack_finite held, if_pos full, unpack]
  simp only [unpackExponent_packComponents, unpackMantissa_packComponents, ordinary, normal,
    if_false, isAtLeastOne, Bool.and_eq_true, decide_eq_true_eq]
  constructor
  · rw [toNat_implicit, Nat.log2_eq_iff (by omega)]
    have low := (BitVec.ofNat 52 mantissa).isLt
    omega
  · rw [stored]
    simp only [Format.exponentBias]
    omega

theorem ofScientific_eq_mul {significand places : Nat} (some : significand ≠ 0)
    (small : places ≤ 308) :
    UnpackedFloat.ofScientific Format.binary64 significand (Int.ofNat places) =
      UnpackedFloat.mul Format.binary64
        (.finite .positive (significand <<< 53) (-53) (by
          rw [Nat.shiftLeft_eq]
          exact Nat.mul_pos (Nat.pos_of_ne_zero some) (Nat.two_pow_pos 53)))
        (.finite .positive (10 ^ places) 0 (Nat.pow_pos (by decide))) := by
  have high : ¬Int.ofNat places > 2 ^ Format.binary64.exponentBits := by
    change ¬(places : Int) > 2048
    omega
  have low : ¬Int.ofNat places < -((2 ^ Format.binary64.exponentBits : Int) + significand.log2) := by
    change ¬(places : Int) < -((2048 : Int) + significand.log2)
    omega
  have nonnegative : 0 ≤ Int.ofNat places := Int.natCast_nonneg places
  simp only [UnpackedFloat.ofScientific, some, high, low, nonnegative, dif_neg, if_false, if_true,
    not_false_eq_true]
  rfl

theorem ten_pow_le {places : Nat} (small : places ≤ 306) : 10 ^ places ≤ (2 ^ 10) ^ 102 := by
  calc 10 ^ places ≤ 10 ^ (3 * 102) := Nat.pow_le_pow_right (by decide) small
    _ = (10 ^ 3) ^ 102 := Nat.pow_mul 10 3 102
    _ ≤ (2 ^ 10) ^ 102 := Nat.pow_le_pow_left (by decide) 102

theorem log2_lt_of_lt {number places tens : Nat} (some : number ≠ 0)
    (less : number < 2 ^ places * (2 ^ 10) ^ tens) : number.log2 < places + 10 * tens := by
  rw [Nat.log2_lt some, Nat.pow_add, Nat.pow_mul]
  exact less

theorem isAtLeastOne_scientific {places : Nat} (small : places ≤ 308) :
    isAtLeastOne (Float.ofScientific 1 false places).toModel.unpack = true := by
  by_cases few : places ≤ 22
  · have table : ∀ few < 23,
        isAtLeastOne (Float.ofScientific 1 false few).toModel.unpack = true := by
      decide +kernel
    exact table places (by omega)
  by_cases many : 307 ≤ places
  · rcases (show places = 307 ∨ places = 308 by omega) with same | same
    · rw [same]
      decide +kernel
    · rw [same]
      decide +kernel
  have slow : ¬(1 < 2 ^ 53 ∧ places ≤ 22) := by omega
  rw [Float.ofScientific, dif_neg slow]
  change isAtLeastOne (Float.Model.pack (UnpackedFloat.ofScientific Format.binary64 1
    (Int.ofNat places))).unpack = true
  rw [ofScientific_eq_mul (by decide) small]
  have least : 2 ^ 53 ≤ 1 <<< 53 * 10 ^ places := by
    rw [Nat.one_shiftLeft]
    exact Nat.le_mul_of_pos_right _ (Nat.pow_pos (by decide))
  have some : 1 <<< 53 * 10 ^ places ≠ 0 := by omega
  have long : 53 ≤ (1 <<< 53 * 10 ^ places).log2 := (Nat.le_log2 some).mpr least
  have bounded : (1 <<< 53 * 10 ^ places).log2 < 54 + 10 * 102 := by
    have power : 10 ^ places ≤ (2 ^ 10) ^ 102 := ten_pow_le (by omega)
    have first : 1 <<< 53 < 2 ^ 54 := by decide
    apply log2_lt_of_lt some
    exact Nat.mul_lt_mul_of_lt_of_le first power (Nat.pow_pos (Nat.two_pow_pos 10))
  obtain ⟨full, exponent, positive, own, log, high, low⟩ :=
    roundWithAccuracy_of_long (by omega : 52 ≤ (1 <<< 53 * 10 ^ places).log2)
      (by omega : -1022 ≤ ((1 <<< 53 * 10 ^ places).log2 : Int) + (-53 + 0))
      (.positive * .positive) .exact
  rw [UnpackedFloat.mul, own]
  exact isAtLeastOne_pack log (by omega) (by omega) _ positive

theorem isFinite_scientific {places : Nat} (small : places ≤ 308) :
    (Float.ofScientific 1 false places).isFinite = true := by
  have large := isAtLeastOne_scientific small
  change (Float.ofScientific 1 false places).toModel.unpack.isFinite = true
  generalize (Float.ofScientific 1 false places).toModel.unpack = own at *
  cases own with
  | finite => rfl
  | zero => cases large
  | infinity => cases large
  | notANumber => cases large

theorem below_round {bound : Int} (least : -1074 < bound) {width mantissa : Nat} {exponent : Int}
    (narrow : mantissa < 2 ^ width) (sum : width + exponent < bound) (sign : Sign) :
    Below bound (UnpackedFloat.round Format.binary64 sign mantissa exponent) := by
  rw [UnpackedFloat.round, decreaseExponent]
  generalize (exponent - _).toNat = shift
  have shifted : mantissa <<< shift < 2 ^ (width + shift) := by
    rw [Nat.shiftLeft_eq, Nat.pow_add]
    exact Nat.mul_lt_mul_of_pos_right narrow (Nat.two_pow_pos shift)
  exact below_roundWithAccuracy least shifted (by omega) sign .exact

theorem below_ofNat_unpacked {value : Nat} (bounded : value < 2 ^ 64) :
    Below 65 (UnpackedFloat.ofNat Format.binary64 value) := by
  rw [UnpackedFloat.ofNat, UnpackedFloat.ofInt, UnpackedFloat.normalize]
  split
  case h_1 less =>
    rw [Int.compare_eq_lt] at less
    omega
  case h_2 => exact .zero .positive
  case h_3 =>
    rw [Int.toNat_natCast]
    exact below_round (by decide) bounded (by decide) .positive

theorem below_one : Below 1 (Float.ofBits 0x3FF0000000000000).toModel.unpack := by
  apply below_unpack
  · decide +kernel
  · decide
  · decide +kernel

theorem below_ofNat {value : Nat} (bounded : value < 2 ^ 64) :
    Below 67 (Float.ofNat value).toModel.unpack := by
  change Below 67 (Float.ofScientific value false 0).toModel.unpack
  rw [Float.ofScientific]
  split
  case isTrue small =>
    have converted : value.toUInt64.toNat = value := by
      exact Nat.mod_eq_of_lt bounded
    have whole : Below 65 (value.toUInt64.toFloat).toModel.unpack := by
      apply Below.pack (by decide) (by decide)
      rw [UnpackedFloat.ofUInt64, converted]
      exact below_ofNat_unpacked bounded
    change Below 67 (Float.Model.pack (UnpackedFloat.mul Format.binary64
      (value.toUInt64.toFloat).toModel.unpack
      (Float.ofBits 0x3FF0000000000000).toModel.unpack)).unpack
    apply Below.pack (by decide) (by decide)
    exact Below.mul (by decide) (by decide) whole below_one
  case isFalse =>
    apply Below.pack (by decide) (by decide)
    by_cases none : value = 0
    · rw [none]
      exact .zero .positive
    · change Below 67 (UnpackedFloat.ofScientific Format.binary64 value (Int.ofNat 0))
      rw [ofScientific_eq_mul none (by decide)]
      have shifted : value <<< 53 < 2 ^ 117 := by
        rw [Nat.shiftLeft_eq]
        exact Nat.mul_lt_mul_of_pos_right bounded (Nat.two_pow_pos 53)
      have ten : 10 ^ 0 < 2 ^ 1 := by decide
      exact Below.mul (by decide) (by decide) (.finite shifted (Int.le_refl 64))
        (.finite ten (Int.le_refl 1))

theorem isFinite_ofNat {value : Nat} (bounded : value < 2 ^ 64) :
    (Float.ofNat value).isFinite = true :=
  (below_ofNat bounded).isFinite

theorem isFinite_ofInt {value : Int} (bounded : value.natAbs < 2 ^ 64) :
    (Float.ofInt value).isFinite = true := by
  cases value with
  | ofNat whole => exact isFinite_ofNat bounded
  | negSucc whole => exact isFinite_neg (isFinite_ofNat bounded)

theorem below_div {bound : Int} (least : -1022 ≤ bound) (most : bound < 972) {value divisor : Float}
    (below : Below bound value.toModel.unpack)
    (large : isAtLeastOne divisor.toModel.unpack = true) :
    Below (bound + 1) (value / divisor).toModel.unpack :=
  (below.div (by omega) large).pack (by omega) (by omega)

end DesignExport.Number
