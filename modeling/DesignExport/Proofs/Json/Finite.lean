import DesignExport.Json.Decoder
import DesignExport.Proofs.Number.Finite
set_option autoImplicit false

/-! Readings hold finite numbers. Whatever text is scanned, a number that a reader would take
is finite: a numeral out of range is marked as flawed. -/

namespace DesignExport.Json

open DesignExport.Number

/-! ### Numerals -/

theorem gatherDigits_lt {significand : Nat} (bounded : significand < 2 ^ 64) (digits : List Char) :
    ∀ taken, (gatherDigits significand taken digits).1 < 2 ^ 64 := by
  induction digits generalizing significand with
  | nil => exact fun _ => bounded
  | cons digit digits ih =>
      intro taken
      rw [gatherDigits]
      split
      case isTrue fits => exact ih fits _
      case isFalse => exact bounded

/-- Dividing step by step by powers of ten stays finite. -/
theorem below_scaleDown {value result : Float} (steps : Nat) : ∀ {bound : Int} {places : Nat},
    -1022 ≤ bound → bound + steps < 972 → Below bound value.toModel.unpack →
      scaleDown value steps places = some result → result.isFinite = true := by
  induction steps generalizing value with
  | zero =>
      intro bound places _ _ below scaled
      rw [scaleDown] at scaled
      cases scaled
      exact below.isFinite
  | succ steps ih =>
      intro bound places least most below scaled
      rw [scaleDown] at scaled
      split at scaled
      case isTrue small =>
        cases scaled
        exact (below_div least (by omega) below (isAtLeastOne_scientific small)).isFinite
      case isFalse =>
        split at scaled
        case isTrue =>
          cases scaled
          exact below.isFinite
        case isFalse =>
          have large : isAtLeastOne (1e308 : Float).toModel.unpack = true :=
            isAtLeastOne_scientific (Nat.le_refl 308)
          exact ih (by omega) (by omega) (below_div least (by omega) below large) scaled

theorem isFinite_scale? {significand : Nat} (bounded : significand < 2 ^ 64) {exponent : Int}
    {result : Float} (scaled : scale? significand exponent = some result) :
    result.isFinite = true := by
  have below := below_ofNat bounded
  rw [scale?] at scaled
  dsimp only at scaled
  split at scaled
  case isTrue => exact below_scaleDown 4 (by decide) (by decide) below scaled
  case isFalse =>
    split at scaled
    case isTrue small =>
      split at scaled
      case isTrue => cases scaled
      case isFalse bounded' =>
        cases scaled
        exact isFinite_mul below.isFinite (isFinite_scientific (by omega))
          (Bool.eq_false_iff.mpr bounded')
    case isFalse =>
      split at scaled
      case isTrue =>
        cases scaled
        exact below.isFinite
      case isFalse => cases scaled

theorem isFinite_signed {value : Float} (finite : value.isFinite = true) (negative : Bool) :
    (signed negative value).isFinite = true := by
  cases negative with
  | false => exact finite
  | true => exact isFinite_neg finite

theorem isFinite_scaled? {numeral : Numeral} {negative : Bool} {result : Float}
    (scaled : numeral.scaled? negative = some result) : result.isFinite = true := by
  have whole := gatherDigits_lt (by decide : 0 < 2 ^ 64) numeral.whole 0
  have digits := gatherDigits_lt whole (numeral.fraction.getD []) 0
  have apart {exponent : Int} (some : (scale? (gatherDigits (gatherDigits 0 0 numeral.whole).1 0
      (numeral.fraction.getD [])).1 exponent).map (signed negative) = some result) :
      result.isFinite = true := by
    obtain ⟨value, magnitude, rfl⟩ := Option.map_eq_some_iff.mp some
    exact isFinite_signed (isFinite_scale? digits magnitude) negative
  rw [Numeral.scaled?] at scaled
  dsimp only at scaled
  split at scaled
  case h_1 => exact apart scaled
  case h_2 =>
    split at scaled
    case isTrue => exact apart scaled
    case isFalse =>
      split at scaled
      case isTrue =>
        cases scaled
        exact isFinite_signed (by decide +kernel) negative
      case isFalse => cases scaled

theorem isFinite_value? {numeral : Numeral} {negative : Bool} {number : Number}
    (valued : numeral.value? negative = some number) : number.toFloat.isFinite = true := by
  have whole := gatherDigits_lt (by decide : 0 < 2 ^ 64) numeral.whole 0
  have apart (some : (numeral.scaled? negative).map Number.fraction = some number) :
      number.toFloat.isFinite = true := by
    obtain ⟨value, scaled, rfl⟩ := Option.map_eq_some_iff.mp some
    exact isFinite_scaled? scaled
  rw [Numeral.value?] at valued
  split at valued
  case h_1 =>
    dsimp only at valued
    split at valued
    case isTrue =>
      cases valued
      exact isFinite_ofInt whole
    case isFalse =>
      split at valued
      case isTrue small =>
        cases valued
        apply isFinite_ofInt
        rw [Int.natAbs_neg]
        exact whole
      case isFalse => exact apart valued
  case h_2 => exact apart valued

/-! ### Readings -/

mutual

/-- A reader that takes the reading meets finite numbers only. -/
def Reading.IsFinite : Reading → Prop
  | .number value => value.toFloat.isFinite = true
  | .list items => items.IsFinite
  | .record members => members.IsFinite
  | _ => True

def Items.IsFinite : Items → Prop
  | .next item rest => item.IsFinite ∧ rest.IsFinite
  | _ => True

def Members.IsFinite : Members → Prop
  | .next _ value rest => value.IsFinite ∧ rest.IsFinite
  | _ => True

end

theorem isFinite_missingDigit (rest : List Char) : (missingDigit rest).1.IsFinite := by
  rw [missingDigit]
  split <;> trivial

theorem isFinite_finishNumeral (numeral : Numeral) (negative : Bool) (rest : List Char) :
    (finishNumeral numeral negative rest).1.IsFinite := by
  rw [finishNumeral]
  split
  case h_1 value valued => exact isFinite_value? valued
  case h_2 => trivial

theorem isFinite_scanExponent (numeral : Numeral) (negative : Bool) (chars : List Char) :
    (scanExponent numeral negative chars).1.IsFinite := by
  cases chars with
  | nil => exact isFinite_finishNumeral numeral negative []
  | cons char chars =>
      rw [scanExponent.eq_def]
      dsimp only
      split
      case isTrue =>
        split
        all_goals
          split
          case isTrue => exact isFinite_missingDigit _
          case isFalse => exact isFinite_finishNumeral _ negative _
      case isFalse => exact isFinite_finishNumeral numeral negative _

theorem isFinite_scanFraction (numeral : Numeral) (negative : Bool) (chars : List Char) :
    (scanFraction numeral negative chars).1.IsFinite := by
  rw [scanFraction.eq_def]
  split
  case h_1 =>
    dsimp only
    split
    case isTrue => exact isFinite_missingDigit _
    case isFalse => exact isFinite_scanExponent _ negative _
  case h_2 => exact isFinite_scanExponent numeral negative chars

theorem isFinite_scanNumeral (negative : Bool) (chars : List Char) :
    (scanNumeral negative chars).1.IsFinite := by
  rw [scanNumeral]
  dsimp only
  split
  case h_1 => exact isFinite_missingDigit chars
  case h_2 => trivial
  case h_3 => exact isFinite_scanFraction _ negative _

theorem isFinite_scanWord {found : Reading} (finite : found.IsFinite) (letters : List Char) :
    ∀ chars, (scanWord found letters chars).1.IsFinite := by
  induction letters with
  | nil => exact fun _ => finite
  | cons letter letters ih =>
      intro chars
      cases chars with
      | nil => trivial
      | cons char chars =>
          rw [scanWord]
          split
          case isTrue => exact ih chars
          case isFalse => trivial

theorem isFinite_atDepth {reading : Reading} (finite : reading.IsFinite) (depth : Nat) :
    (atDepth depth reading).IsFinite := by
  rw [atDepth]
  split
  case isTrue => exact finite
  case isFalse => trivial

/-- What scanning with some fuel yields. -/
structure ScansFinite (fuel : Nat) : Prop where
  value : ∀ depth chars, (scanValue fuel depth chars).1.IsFinite
  items : ∀ depth isFirst chars, (scanItems fuel depth isFirst chars).1.IsFinite
  item : ∀ depth chars, (scanItem fuel depth chars).1.IsFinite
  members : ∀ depth isFirst chars, (scanMembers fuel depth isFirst chars).1.IsFinite
  member : ∀ depth chars, (scanMember fuel depth chars).1.IsFinite

section Step

variable {fuel : Nat} (ih : ScansFinite fuel)

include ih

theorem isFinite_scanValue_succ (depth : Nat) (chars : List Char) :
    (scanValue (fuel + 1) depth chars).1.IsFinite := by
  rw [scanValue]
  split
  case h_1 => trivial
  case h_2 =>
    apply isFinite_scanWord
    trivial
  case h_3 =>
    apply isFinite_scanWord
    trivial
  case h_4 =>
    apply isFinite_scanWord
    trivial
  case h_5 => exact isFinite_scanNumeral true _
  case h_6 => split <;> trivial
  case h_7 =>
    apply isFinite_atDepth
    exact ih.items _ _ _
  case h_8 =>
    apply isFinite_atDepth
    exact ih.members _ _ _
  case h_9 =>
    split
    case isTrue => exact isFinite_scanNumeral false _
    case isFalse => trivial

theorem isFinite_scanItems_succ (depth : Nat) (isFirst : Bool) (chars : List Char) :
    (scanItems (fuel + 1) depth isFirst chars).1.IsFinite := by
  rw [scanItems.eq_def]
  dsimp only
  split
  case h_1 => trivial
  case h_2 => trivial
  case h_3 =>
    split
    case h_1 => exact ⟨trivial, trivial⟩
    case h_2 => exact ih.item _ _
  case h_4 => exact ih.item _ _
  case h_5 => trivial

theorem isFinite_scanItem_succ (depth : Nat) (chars : List Char) :
    (scanItem (fuel + 1) depth chars).1.IsFinite := by
  have value := ih.value depth chars
  rw [scanItem]
  split
  case h_1 item scanned =>
    rw [scanned] at value
    exact ⟨value, trivial⟩
  case h_2 item rest scanned =>
    rw [scanned] at value
    exact ⟨value, ih.items _ _ _⟩

theorem isFinite_scanMembers_succ (depth : Nat) (isFirst : Bool) (chars : List Char) :
    (scanMembers (fuel + 1) depth isFirst chars).1.IsFinite := by
  rw [scanMembers.eq_def]
  dsimp only
  split
  case h_1 => trivial
  case h_2 => trivial
  case h_3 =>
    split
    case h_1 => trivial
    case h_2 => exact ih.member _ _
    case h_3 => trivial
  case h_4 => exact ih.member _ _
  case h_5 => trivial
  case h_6 => trivial

theorem isFinite_scanMember_succ (depth : Nat) (chars : List Char) :
    (scanMember (fuel + 1) depth chars).1.IsFinite := by
  rw [scanMember]
  split
  case h_1 => trivial
  case h_2 name rest _ =>
    split
    rename_i found later scanned
    have value : found.IsFinite := by
      split at scanned
      case h_1 =>
        cases scanned
        trivial
      case h_2 remaining _ =>
        have held := ih.value depth remaining
        rw [scanned] at held
        exact held
      case h_3 =>
        cases scanned
        trivial
    cases name with
    | error => trivial
    | ok name =>
        cases later with
        | none => exact ⟨value, trivial⟩
        | some later => exact ⟨value, ih.members _ _ _⟩

end Step

theorem scansFinite (fuel : Nat) : ScansFinite fuel := by
  induction fuel with
  | zero =>
      constructor
      case value =>
        intro depth chars
        rw [scanValue]
        trivial
      case items =>
        intro depth isFirst chars
        rw [scanItems]
        trivial
      case item =>
        intro depth chars
        rw [scanItem]
        trivial
      case members =>
        intro depth isFirst chars
        rw [scanMembers]
        trivial
      case member =>
        intro depth chars
        rw [scanMember]
        trivial
  | succ fuel ih =>
      constructor
      case value => exact isFinite_scanValue_succ ih
      case items => exact isFinite_scanItems_succ ih
      case item => exact isFinite_scanItem_succ ih
      case members => exact isFinite_scanMembers_succ ih
      case member => exact isFinite_scanMember_succ ih

theorem isFinite_scan (source : String) : (scan source).1.IsFinite :=
  (scansFinite _).value 0 source.toList

end DesignExport.Json
