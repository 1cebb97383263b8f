import DesignExport.Dart.Literal
import DesignExport.Proofs.Dart.Values
set_option autoImplicit false

/-! The texts of numbers are words of code: digits with a sign and a point, or a name
for what is no number. -/

namespace DesignExport

open DesignExport.Text (Every)

namespace Number

/-- Letters, digits, points and signs. -/
def isNumeralChar (char : Char) : Bool :=
  char.isAlphanum || char = '.' || char = '-'

/-- Some characters, all of them of numerals. -/
def IsNumeral (text : String) : Prop :=
  Every isNumeralChar text ∧ text ≠ ""

theorem IsNumeral.isWord {text : String} (numeral : IsNumeral text) : Dart.IsWord text := by
  obtain ⟨every, present⟩ := numeral
  refine ⟨every.mono fun char allowed => ?_, ?_⟩
  · simp only [isNumeralChar, Bool.or_eq_true, decide_eq_true_eq] at allowed
    simp only [Text.isPlainChar, Bool.or_eq_true, decide_eq_true_eq]
    rcases allowed with (letter | point) | sign
    · exact Or.inl (Or.inl (Or.inl (Or.inl letter)))
    · exact Or.inl (Or.inl (Or.inl (Or.inr point)))
    · exact Or.inl (Or.inr sign)
  · cases chars : text.toList with
    | nil => exact absurd (String.toList_inj.mp chars) present
    | cons first rest =>
        refine ⟨first, rfl, ?_⟩
        rintro rfl
        have blank := every ' ' (chars ▸ List.mem_cons_self)
        cases blank

theorem every_digits (count : Nat) : ∀ char ∈ Nat.toDigits 10 count, isNumeralChar char = true := by
  intro char member
  have digit := Nat.isDigit_of_mem_toDigits (by decide) (by decide) member
  rw [isNumeralChar, Char.isAlphanum, digit, Bool.or_true]
  rfl

theorem every_zeros (count : Nat) : Every isNumeralChar (zeros count) := by
  apply Every.ofList
  intro char member
  rw [(List.mem_replicate.mp member).2]
  rfl

theorem every_toString (value : Int) : Every isNumeralChar (toString value) := by
  have natural (count : Nat) : Every isNumeralChar (toString count) := by
    rw [Nat.toString_eq_ofList_toDigits]
    exact Every.ofList (every_digits count)
  cases value with
  | ofNat count => exact natural count
  | negSucc count =>
      have sign : Every isNumeralChar "-" := by decide
      exact sign.append (natural (count + 1))

theorem IsNumeral.append {front back : String} (numeral : IsNumeral front)
    (every : Every isNumeralChar back) : IsNumeral (front ++ back) :=
  ⟨numeral.1.append every, fun empty => numeral.2 (String.append_eq_empty_iff.mp empty).1⟩

theorem IsNumeral.prepend {front back : String} (every : Every isNumeralChar front)
    (numeral : IsNumeral back) : IsNumeral (front ++ back) :=
  ⟨every.append numeral.1, fun empty => numeral.2 (String.append_eq_empty_iff.mp empty).2⟩

theorem isNumeral_writeDecimal (style : Style) (decimal : Decimal) :
    IsNumeral (style.writeDecimal decimal) := by
  have piece : ∀ chars : List Char, (∀ char ∈ chars, char ∈ Nat.toDigits 10 decimal.digits) →
      Every isNumeralChar (String.ofList chars) :=
    fun chars inside => Every.ofList fun char member => every_digits _ char (inside char member)
  have digits : IsNumeral (String.ofList (Nat.toDigits 10 decimal.digits)) := by
    refine ⟨piece _ fun _ member => member, fun empty => ?_⟩
    rw [String.ofList_eq_empty_iff] at empty
    exact Nat.toDigits_ne_nil empty
  have taken (count : Nat) := piece _ fun _ member => List.mem_of_mem_take (i := count) member
  have dropped (count : Nat) := piece _ fun _ member => List.mem_of_mem_drop (i := count) member
  have point : IsNumeral "." := ⟨by decide, by decide⟩
  have zero : IsNumeral "0." := ⟨by decide, by decide⟩
  have exponent : IsNumeral "e" := ⟨by decide, by decide⟩
  unfold Style.writeDecimal
  dsimp only
  split
  · refine (digits.append (every_zeros _)).append ?_
    split <;> decide
  · split
    · exact (IsNumeral.prepend (taken _) point).append (dropped _)
    · split
      · exact (zero.append (every_zeros _)).append digits.1
      · refine (IsNumeral.prepend ((taken 1).append ?_) exponent).append (every_toString _)
        split
        · decide
        · exact (point.append (dropped 1)).1

/-- Also numbers that are none, or infinite, have such a text. -/
theorem isNumeral_write (style : Style) (value : Float) : IsNumeral (style.write value) := by
  have sign : Every isNumeralChar
      (if value.toBits.toNat / Nat.pow 2 63 = 1 then "-" else "") := by
    split <;> decide
  unfold Style.write
  dsimp only
  split
  · exact ⟨by decide, by decide⟩
  · split
    · exact IsNumeral.prepend sign ⟨by decide, by decide⟩
    · split
      · refine (IsNumeral.prepend sign ⟨by decide, by decide⟩).append ?_
        split <;> decide
      · exact IsNumeral.prepend sign (isNumeral_writeDecimal style _)

end Number

/-- Scalars that are written as numerals. -/
class WritesNumerals (α : Type) [Scalar α] : Prop where
  isNumeral_text : ∀ value : α, Number.IsNumeral (Scalar.text value)

instance : WritesNumerals Float where
  isNumeral_text := Number.isNumeral_write Number.plain

variable {α : Type} [Scalar α]

theorem Scalar.isWord_fixed [WritesNumerals α] (value : α) (places : Nat) :
    Dart.IsWord (Scalar.fixed value places) := by
  unfold Scalar.fixed
  split
  · exact (WritesNumerals.isNumeral_text _).isWord
  · exact Number.IsNumeral.isWord ⟨by decide, by decide⟩

theorem Scalar.isValue_fixed [WritesNumerals α] (value : α) (places : Nat) :
    Dart.IsValue (Scalar.fixed value places) :=
  (Scalar.isWord_fixed value places).isValue

namespace Dart

theorem isValue_dimension [WritesNumerals α] {unit : String} (isUnit : IsWidthUnit unit) (value : α) :
    IsValue (dimension value unit) :=
  (Scalar.isValue_fixed value 1).append isUnit

/-! ### Colours -/

/-- A hexadecimal digit is plain, whatever number it is looked up for. -/
theorem isPlainChar_hexDigit (value : Nat) :
    Text.isPlainChar ("0123456789abcdef".toList.getD value '0') = true := by
  have digits : Text.IsPlain "0123456789abcdef" := by decide
  rw [List.getD_eq_getElem?_getD]
  cases found : "0123456789abcdef".toList[value]? with
  | none => rfl
  | some char => exact digits char (List.mem_of_getElem? found)

theorem isPlainChar_of_mem_hexByte {value : UInt8} {char : Char} (member : char ∈ Color.hexByte value) :
    Text.isPlainChar char = true := by
  rcases List.mem_cons.mp member with same | later
  · exact same ▸ isPlainChar_hexDigit _
  · exact List.mem_singleton.mp later ▸ isPlainChar_hexDigit _

theorem isPlain_toArgbHex (color : Color) (opacity : α) :
    Text.IsPlain (color.toArgbHex opacity) := by
  apply Every.ofList
  intro char member
  simp only [List.mem_append] at member
  rcases member with ((alpha | red) | green) | blue
  · exact isPlainChar_of_mem_hexByte alpha
  · exact isPlainChar_of_mem_hexByte red
  · exact isPlainChar_of_mem_hexByte green
  · exact isPlainChar_of_mem_hexByte blue

theorem isValue_colorLiteral (color : Color) (opacity : α) : IsValue (colorLiteral color opacity) := by
  obtain ⟨glued, hex⟩ := scan_of_isPlain (isPlain_toArgbHex color opacity) true
  refine ⟨false, fun pending awaited lacks => ?_⟩
  have opening : Reads "const Color(0x" ⟨.code, false, pending, awaited, lacks⟩
      ⟨.code, true, false, ')' :: awaited, lacks⟩ := rfl
  have closing : Reads ")" ⟨.code, glued, false, ')' :: awaited, lacks⟩
      (Scanner.ready awaited lacks) := rfl
  exact (opening.append (hex (')' :: awaited) lacks)).append closing

end Dart

end DesignExport
