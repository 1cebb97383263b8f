import DesignExport.Number.Exact
import Mathlib.Data.List.TakeWhile
import Mathlib.Data.Rat.Floor
import Mathlib.NumberTheory.Divisors
import Mathlib.Tactic.FieldSimp
import Mathlib.Tactic.Linarith
import Mathlib.Tactic.Ring
set_option autoImplicit false

/-! The operations on scalars at exact rational numbers, and the decimal texts of such numbers.
A rational number that has a finite decimal notation is written as that notation, and what is
rounded to one decimal place has one. -/

namespace DesignExport

namespace Number

theorem roundRational_intCast (whole : Int) : roundRational (whole : Rat) = whole := by
  have half (value : Int) : ((value : Rat) + 1 / 2).floor = value := by
    change ⌊(value : Rat) + 1 / 2⌋ = value
    rw [Int.floor_eq_iff]
    constructor <;> linarith
  unfold roundRational
  by_cases negative : (whole : Rat) < 0
  · have opposite := half (-whole)
    rw [Int.cast_neg] at opposite
    rw [if_pos negative, opposite, Int.cast_neg, neg_neg]
  · rw [if_neg negative, half]

theorem exists_roundRational_eq (value : Rat) : ∃ whole : Int, roundRational value = whole := by
  unfold roundRational
  split
  · exact ⟨-(-value + 1 / 2).floor, (Int.cast_neg _).symm⟩
  · exact ⟨(value + 1 / 2).floor, rfl⟩

/-- A number is moved by at most a half. -/
theorem abs_roundRational_sub_le (value : Rat) : |roundRational value - value| ≤ 1 / 2 := by
  have nearest (value : Rat) : |(((value + 1 / 2).floor : Int) : Rat) - value| ≤ 1 / 2 := by
    have below : (((value + 1 / 2).floor : Int) : Rat) ≤ value + 1 / 2 := Int.floor_le _
    have above : value + 1 / 2 < (((value + 1 / 2).floor : Int) : Rat) + 1 := Int.lt_floor_add_one _
    rw [abs_le]
    constructor <;> linarith
  unfold roundRational
  split
  · have mirrored := nearest (-value)
    rw [abs_le] at mirrored ⊢
    constructor <;> linarith
  · exact nearest value

end Number

namespace Scalar

theorem abs_eq_abs (value : Rat) : abs value = |value| := by
  by_cases negative : value < 0
  · exact (if_pos negative).trans (abs_of_neg negative).symm
  · exact (if_neg negative).trans (abs_of_nonneg (not_lt.mp negative)).symm

/-! ### Order -/

theorem isUndefined_eq_false (value : Rat) : isUndefined value = false := by
  have same : (value == value) = true := beq_self_eq_true value
  exact congrArg Bool.not same

theorem least_eq_min (first second : Rat) : least first second = min first second := by
  unfold least
  rw [isUndefined_eq_false, if_neg Bool.false_ne_true]
  by_cases lower : second < first
  · exact (if_pos lower).trans (min_eq_right lower.le).symm
  · exact (if_neg lower).trans (min_eq_left (not_lt.mp lower)).symm

theorem greatest_eq_max (first second : Rat) : greatest first second = max first second := by
  unfold greatest
  rw [isUndefined_eq_false, if_neg Bool.false_ne_true]
  by_cases lower : first < second
  · exact (if_pos lower).trans (max_eq_right lower.le).symm
  · exact (if_neg lower).trans (max_eq_left (not_lt.mp lower)).symm

theorem atLeast_eq_max (bound value : Rat) : atLeast bound value = max bound value := by
  unfold atLeast
  by_cases above : bound < value
  · exact (if_pos above).trans (max_eq_right above.le).symm
  · exact (if_neg above).trans (max_eq_left (not_lt.mp above)).symm

/-! ### One decimal place -/

theorem roundTo_one (value : Rat) : roundTo value 1 = Number.roundRational (value * 10) / 10 := by
  have ten : power (10.0 : Rat) (Int.bmod ((1 : Nat) : Int) 4294967296) = 10 := by decide +kernel
  unfold roundTo roundToPlace
  simp only [ten]
  rfl

theorem roundTo_roundTo_one (value : Rat) : roundTo (roundTo value 1) 1 = roundTo value 1 := by
  obtain ⟨whole, rounded⟩ := Number.exists_roundRational_eq (value * 10)
  have back : (whole : Rat) / 10 * 10 = whole := by ring
  rw [roundTo_one, roundTo_one value, rounded, back, Number.roundRational_intCast]

theorem abs_roundTo_one_sub_le (value : Rat) : |roundTo value 1 - value| ≤ 1 / 20 := by
  have tenths := Number.abs_roundRational_sub_le (value * 10)
  rw [roundTo_one]
  rw [abs_le] at tenths ⊢
  constructor <;> linarith

end Scalar

/-! ### Decimal texts -/

namespace Number

/-- Digits, at least one of them. -/
def AreDigits (chars : List Char) : Prop :=
  chars ≠ [] ∧ chars.all Char.isDigit = true

instance (chars : List Char) : Decidable (AreDigits chars) :=
  inferInstanceAs (Decidable (_ ∧ _))

/-- The number that digits stand for, with or without a point among them. -/
def unsignedValue? (chars : List Char) : Option Rat :=
  let whole := chars.takeWhile (· ≠ '.')
  match chars.dropWhile (· ≠ '.') with
  | [] => if AreDigits whole then some (Nat.ofDigitChars 10 whole 0) else none
  | _ :: fraction =>
      if AreDigits whole ∧ AreDigits fraction then
        some ((Nat.ofDigitChars 10 whole 0 : Rat) + (Nat.ofDigitChars 10 fraction 0 : Rat) / 10 ^ fraction.length)
      else none

/-- The number that a decimal text stands for. -/
def decimalValue? (text : String) : Option Rat :=
  match text.toList with
  | '-' :: chars => (unsignedValue? chars).map fun value => -value
  | chars => unsignedValue? chars

/-! ### Digits -/

theorem ofDigitChars_eq_add (digits : List Char) (begun : Nat) :
    Nat.ofDigitChars 10 digits begun = begun * 10 ^ digits.length + Nat.ofDigitChars 10 digits 0 := by
  induction digits generalizing begun with
  | nil => simp [Nat.ofDigitChars]
  | cons digit digits ih =>
      have step (begun : Nat) : Nat.ofDigitChars 10 (digit :: digits) begun =
          Nat.ofDigitChars 10 digits (10 * begun + (digit.toNat - '0'.toNat)) := rfl
      rw [step, step, ih, ih (10 * 0 + _), List.length_cons, pow_succ]
      ring

theorem ofDigitChars_zeros (count : Nat) : Nat.ofDigitChars 10 (List.replicate count '0') 0 = 0 := by
  induction count with
  | zero => rfl
  | succ count ih => exact ih

theorem areDigits_toDigits (count : Nat) : AreDigits (Nat.toDigits 10 count) :=
  ⟨Nat.toDigits_ne_nil, List.all_eq_true.mpr fun _ member =>
    Nat.isDigit_of_mem_toDigits (by decide) (by decide) member⟩

theorem ne_point_of_isDigit {char : Char} (digit : char.isDigit = true) : decide (char ≠ '.') = true := by
  apply decide_eq_true
  rintro rfl
  cases digit

theorem unsignedValue?_digits {chars : List Char} (digits : AreDigits chars) :
    unsignedValue? chars = some (Nat.ofDigitChars 10 chars 0 : Rat) := by
  have inside : ∀ char ∈ chars, decide (char ≠ '.') = true := fun char member =>
    ne_point_of_isDigit (List.all_eq_true.mp digits.2 char member)
  have whole : chars.takeWhile (· ≠ '.') = chars := List.takeWhile_eq_self_iff.mpr inside
  have rest : chars.dropWhile (· ≠ '.') = [] := List.dropWhile_eq_nil_iff.mpr inside
  unfold unsignedValue?
  rw [rest, whole]
  exact if_pos digits

theorem unsignedValue?_point {whole fraction : List Char} (front : AreDigits whole)
    (back : AreDigits fraction) : unsignedValue? (whole ++ '.' :: fraction) =
      some ((Nat.ofDigitChars 10 (whole ++ fraction) 0 : Rat) / 10 ^ fraction.length) := by
  have inside : ∀ char ∈ whole, decide (char ≠ '.') = true := fun char member =>
    ne_point_of_isDigit (List.all_eq_true.mp front.2 char member)
  have taken : (whole ++ '.' :: fraction).takeWhile (· ≠ '.') = whole := by
    rw [List.takeWhile_append_of_pos inside]
    simp
  have dropped : (whole ++ '.' :: fraction).dropWhile (· ≠ '.') = '.' :: fraction := by
    rw [List.dropWhile_append_of_pos inside]
    simp
  have power : (10 : Rat) ^ fraction.length ≠ 0 := pow_ne_zero _ (by decide)
  unfold unsignedValue?
  rw [dropped, taken]
  simp only [front, back, and_self, if_true]
  rw [Nat.ofDigitChars_append, ofDigitChars_eq_add fraction (Nat.ofDigitChars 10 whole 0)]
  push_cast
  rw [add_div, mul_div_cancel_right₀ _ power]

theorem decimalValue?_of_unsigned {text : String} {value : Rat}
    (reads : unsignedValue? text.toList = some value) : decimalValue? text = some value := by
  unfold decimalValue?
  split
  case h_1 chars signed =>
    -- A sign is no digit.
    have sign (digits : List Char) : ¬AreDigits ('-' :: digits) := fun are => by cases are.2
    rw [signed, unsignedValue?] at reads
    simp only [List.takeWhile_cons, List.dropWhile_cons] at reads
    simp [sign] at reads
    split at reads <;> cases reads
  case h_2 => exact reads

theorem decimalValue?_neg {text : String} {value : Rat}
    (reads : unsignedValue? text.toList = some value) : decimalValue? ("-" ++ text) = some (-value) := by
  have signed : ("-" ++ text).toList = '-' :: text.toList := String.toList_append
  unfold decimalValue?
  rw [signed]
  change (unsignedValue? text.toList).map _ = _
  rw [reads]
  rfl

/-! ### Texts of rational numbers -/

theorem writeDecimal_whole (digits : Nat) :
    (plain.writeDecimal ⟨digits, 0⟩).toList = Nat.toDigits 10 digits := by
  unfold Style.writeDecimal
  dsimp only
  rw [if_pos]
  · simp only [zeros, String.toList_append, String.toList_ofList]
    exact (List.append_nil _).trans (List.append_nil _)
  · exact Bool.and_eq_true_iff.mpr ⟨rfl, rfl⟩

theorem writeDecimal_mixed {digits places : Nat} (positive : 0 < places)
    (short : places < (Nat.toDigits 10 digits).length) :
    let whole := (Nat.toDigits 10 digits).length - places
    (plain.writeDecimal ⟨digits, -(places : Int)⟩).toList =
      (Nat.toDigits 10 digits).take whole ++ '.' :: (Nat.toDigits 10 digits).drop whole := by
  intro whole
  have count : (((Nat.toDigits 10 digits).length : Int) + -(places : Int)).toNat = whole := by omega
  unfold Style.writeDecimal
  dsimp only
  rw [if_neg, if_pos, count]
  · simp only [String.toList_append, String.toList_ofList, List.append_assoc]
    rfl
  · simp only [Bool.and_eq_true, decide_eq_true_eq]
    refine ⟨⟨by omega, by omega⟩, rfl⟩
  · simp only [Bool.and_eq_true, decide_eq_true_eq]
    omega

theorem writeDecimal_fraction {digits places : Nat} (positive : 0 < places)
    (long : (Nat.toDigits 10 digits).length ≤ places) :
    (plain.writeDecimal ⟨digits, -(places : Int)⟩).toList = ['0'] ++ '.' ::
      (List.replicate (places - (Nat.toDigits 10 digits).length) '0' ++ Nat.toDigits 10 digits) := by
  have count : (-(((Nat.toDigits 10 digits).length : Int) + -(places : Int))).toNat =
      places - (Nat.toDigits 10 digits).length := by omega
  unfold Style.writeDecimal
  dsimp only
  rw [if_neg, if_neg, if_pos, count]
  · simp only [zeros, String.toList_append, String.toList_ofList, List.append_assoc]
    rfl
  · simp only [Bool.and_eq_true, decide_eq_true_eq]
    refine ⟨by omega, rfl⟩
  · simp only [Bool.and_eq_true, decide_eq_true_eq]
    omega
  · simp only [Bool.and_eq_true, decide_eq_true_eq]
    omega

theorem unsignedValue?_writeDecimal (digits places : Nat) :
    unsignedValue? (plain.writeDecimal ⟨digits, -(places : Int)⟩).toList =
      some ((digits : Rat) / 10 ^ places) := by
  have all := areDigits_toDigits digits
  have value : Nat.ofDigitChars 10 (Nat.toDigits 10 digits) 0 = digits :=
    Nat.ofDigitChars_toDigits (by decide) (by decide)
  have each : ∀ char ∈ Nat.toDigits 10 digits, char.isDigit = true := List.all_eq_true.mp all.2
  rcases Nat.eq_zero_or_pos places with rfl | positive
  · rw [Int.natCast_zero, neg_zero, writeDecimal_whole, unsignedValue?_digits all, value, pow_zero, div_one]
  rcases Nat.lt_or_ge places (Nat.toDigits 10 digits).length with short | long
  · have taken : AreDigits ((Nat.toDigits 10 digits).take ((Nat.toDigits 10 digits).length - places)) := by
      refine ⟨?_, List.all_eq_true.mpr fun char member => each char (List.mem_of_mem_take member)⟩
      rw [← List.length_pos_iff, List.length_take]
      omega
    have dropped : AreDigits ((Nat.toDigits 10 digits).drop ((Nat.toDigits 10 digits).length - places)) := by
      refine ⟨?_, List.all_eq_true.mpr fun char member => each char (List.mem_of_mem_drop member)⟩
      rw [← List.length_pos_iff, List.length_drop]
      omega
    rw [writeDecimal_mixed positive short, unsignedValue?_point taken dropped, List.take_append_drop, value,
      List.length_drop, Nat.sub_sub_self short.le]
  · have zero : AreDigits ['0'] := by decide
    have padded : AreDigits (List.replicate (places - (Nat.toDigits 10 digits).length) '0' ++
        Nat.toDigits 10 digits) := by
      refine ⟨fun empty => all.1 (List.append_eq_nil_iff.mp empty).2, ?_⟩
      rw [List.all_append, all.2, Bool.and_true, List.all_replicate]
      simp
    rw [writeDecimal_fraction positive long, unsignedValue?_point zero padded, ← List.append_assoc,
      Nat.ofDigitChars_append, ← List.replicate_one, List.replicate_append_replicate, ofDigitChars_zeros,
      value, List.length_append, List.length_replicate, Nat.sub_add_cancel long]

/-- A rational number with a finite decimal notation is read back from its text. -/
theorem decimalValue?_writeRational {value : Rat} {places : Nat}
    (finite : decimalPlaces? value.den = some places) : decimalValue? (writeRational value) = some value := by
  have divides : value.den ∣ 10 ^ places := by
    have found := List.find?_some finite
    exact Nat.dvd_of_mod_eq_zero (of_decide_eq_true found)
  have scaled : value.num.natAbs * 10 ^ places / value.den * value.den = value.num.natAbs * 10 ^ places :=
    Nat.div_mul_cancel (divides.mul_left _)
  have size : ((value.num.natAbs * 10 ^ places / value.den : Nat) : Rat) / 10 ^ places = |value| := by
    have den : (value.den : Rat) ≠ 0 := Nat.cast_ne_zero.mpr value.den_ne_zero
    have power : (10 : Rat) ^ places ≠ 0 := pow_ne_zero _ (by decide)
    have product : ((value.num.natAbs * 10 ^ places / value.den : Nat) : Rat) * value.den =
        value.num.natAbs * 10 ^ places := by
      exact_mod_cast scaled
    have fraction : |value| = value.num.natAbs / value.den := by
      conv_lhs => rw [← Rat.num_div_den value]
      rw [abs_div, Nat.abs_cast, ← Int.cast_abs, Int.abs_eq_natAbs, Int.cast_natCast]
    rw [fraction, div_eq_div_iff power den, product]
  have reads := unsignedValue?_writeDecimal (value.num.natAbs * 10 ^ places / value.den) places
  rw [size] at reads
  unfold writeRational
  rw [finite]
  dsimp only
  split
  case isTrue none =>
    have zero : |value| = 0 := by
      rw [← size]
      change ((value.num.natAbs * Nat.pow 10 places / value.den : Nat) : Rat) / 10 ^ places = 0
      rw [none, Nat.cast_zero, zero_div]
    rw [abs_eq_zero.mp zero]
    rfl
  case isFalse =>
    split
    case isTrue negative =>
      have below : value < 0 := Rat.num_neg.mp negative
      have signed := decimalValue?_neg reads
      rw [abs_of_neg below, neg_neg] at signed
      exact signed
    case isFalse nonnegative =>
      have least : 0 ≤ value := Rat.num_nonneg.mp (not_lt.mp nonnegative)
      rw [abs_of_nonneg least] at reads
      rw [String.empty_append]
      exact decimalValue?_of_unsigned reads

/-- One decimal place is enough for a denominator that divides ten. -/
theorem exists_decimalPlaces? {denominator : Nat} (divides : denominator ∣ 10) :
    ∃ places, decimalPlaces? denominator = some places := by
  have listed : denominator ∈ Nat.divisors 10 := Nat.mem_divisors.mpr ⟨divides, by decide⟩
  have each : ∀ divisor ∈ Nat.divisors 10, (decimalPlaces? divisor).isSome = true := by decide
  exact Option.isSome_iff_exists.mp (each denominator listed)

/-! ### Commas -/

theorem not_comma_of_areDigits {chars : List Char} (digits : AreDigits chars) : ',' ∉ chars := by
  intro member
  have digit := List.all_eq_true.mp digits.2 ',' member
  cases digit

theorem not_comma_of_unsignedValue? {chars : List Char} {value : Rat}
    (reads : unsignedValue? chars = some value) : ',' ∉ chars := by
  have parts := List.takeWhile_append_dropWhile (p := (· ≠ '.')) (l := chars)
  unfold unsignedValue? at reads
  generalize chars.takeWhile (· ≠ '.') = whole at parts reads
  cases rest : chars.dropWhile (· ≠ '.') with
  | nil =>
      rw [rest] at parts reads
      rw [← parts, List.append_nil]
      by_cases digits : AreDigits whole
      · exact not_comma_of_areDigits digits
      · exact absurd reads (by simp [digits])
  | cons point fraction =>
      have found : point = '.' := by
        have stopped := List.head?_dropWhile_not (· ≠ '.') chars
        rw [rest] at stopped
        simpa using stopped
      rw [rest] at parts reads
      rw [← parts, found, List.mem_append, List.mem_cons]
      by_cases digits : AreDigits whole ∧ AreDigits fraction
      · simp [not_comma_of_areDigits digits.1, not_comma_of_areDigits digits.2]
      · exact absurd reads (by simp [digits])

theorem not_comma_of_decimalValue? {text : String} {value : Rat}
    (reads : decimalValue? text = some value) : ',' ∉ text.toList := by
  unfold decimalValue? at reads
  split at reads
  case h_1 chars signed =>
    obtain ⟨size, read, -⟩ := Option.map_eq_some_iff.mp reads
    rw [signed]
    simp [not_comma_of_unsignedValue? read]
  case h_2 => exact not_comma_of_unsignedValue? reads

end Number

namespace Scalar

/-- A number in a text with one decimal place is the rounded number. -/
theorem decimalValue?_fixed (value : Rat) :
    Number.decimalValue? (fixed value 1) = some (roundTo value 1) := by
  have whole : ∃ places, Number.decimalPlaces? (roundTo value 1).den = some places := by
    apply Number.exists_decimalPlaces?
    obtain ⟨tenths, rounded⟩ := Number.exists_roundRational_eq (value * 10)
    rw [roundTo_one, rounded]
    have divides := Rat.den_dvd tenths 10
    rw [Rat.divInt_eq_div] at divides
    exact_mod_cast divides
  obtain ⟨places, finite⟩ := whole
  have same : (if roundTo value 1 == 0.0 then 0.0 else roundTo value 1) = roundTo value 1 := by
    split
    case isTrue zero => exact (eq_of_beq zero).symm
    case isFalse => rfl
  change Number.decimalValue? (Number.writeRational (if roundTo value 1 == 0.0 then 0.0 else roundTo value 1)) = _
  rw [same]
  exact Number.decimalValue?_writeRational finite

end Scalar

end DesignExport
