import DesignExport.Color
import DesignExport.Proofs.Text.Plain
set_option autoImplicit false

/-! The hexadecimal notation of colours. Exactly the texts of six or eight digits behind any
number signs are read, as the bytes that pairs of digits stand for, but for one sign too
many: a plus sign in front of the second digit of a pair counts as zero. What is written for
a colour is read as the opaque colour. -/

namespace DesignExport.Color

/-! ### Digits, bytes and colours -/

/-- A hexadecimal digit of either case with its value. -/
def IsDigit (char : Char) (value : Nat) : Prop :=
  "0123456789abcdef".toList[value]? = some char ∨ "0123456789ABCDEF".toList[value]? = some char

instance (char : Char) (value : Nat) : Decidable (IsDigit char value) :=
  inferInstanceAs (Decidable (_ ∨ _))

/-- What is taken for the first digit of a pair. -/
def IsDigitOrPlus (char : Char) (value : Nat) : Prop :=
  IsDigit char value ∨ char = '+' ∧ value = 0

/-- Two characters for each byte, of which `First` allows the first one. -/
inductive Spells (First : Char → Nat → Prop) : List Char → List UInt8 → Prop where
  | nil : Spells First [] []
  | pair {first second : Char} {high low : Nat} {byte : UInt8} {chars : List Char}
      {bytes : List UInt8} (firstIs : First first high) (secondIs : IsDigit second low)
      (value : byte.toNat = 16 * high + low) (rest : Spells First chars bytes) :
      Spells First (first :: second :: chars) (byte :: bytes)

/-- Three bytes stand for an opaque colour, and a fourth one for the alpha channel. -/
def SpellsColor (First : Char → Nat → Prop) (chars : List Char) (color : Color) : Prop :=
  (Spells First chars [color.red, color.green, color.blue] ∧ color.alpha = 255) ∨
    Spells First chars [color.red, color.green, color.blue, color.alpha]

/-- A colour behind any number signs. -/
def Denotes (First : Char → Nat → Prop) (text : String) (color : Color) : Prop :=
  ∃ signs chars, text.toList = List.replicate signs '#' ++ chars ∧ SpellsColor First chars color

/-! ### Digits -/

theorem IsDigit.lt {char : Char} {value : Nat} (isDigit : IsDigit char value) : value < 16 := by
  rcases isDigit with found | found
  · exact (List.getElem?_eq_some_iff.mp found).1
  · exact (List.getElem?_eq_some_iff.mp found).1

theorem hexValue?_of_isDigit {char : Char} {value : Nat} (isDigit : IsDigit char value) :
    hexValue? char = some value := by
  have each : ∀ value < 16, "0123456789abcdef".toList[value]?.bind hexValue? = some value ∧
      "0123456789ABCDEF".toList[value]?.bind hexValue? = some value := by
    decide
  obtain ⟨lower, upper⟩ := each value isDigit.lt
  rcases isDigit with found | found
  · rwa [found] at lower
  · rwa [found] at upper

theorem toNat_of_hexValue? {char : Char} {value : Nat} (read : hexValue? char = some value) :
    char.toNat < 128 := by
  have below {last : Char} (ascii : last.toNat < 128) (range : char ≤ last) : char.toNat < 128 :=
    Nat.lt_of_le_of_lt range ascii
  unfold hexValue? at read
  split at read
  case isTrue digit =>
    simp only [Bool.and_eq_true, decide_eq_true_eq] at digit
    exact below (by decide) digit.2
  case isFalse =>
    split at read
    case isTrue lower =>
      simp only [Bool.and_eq_true, decide_eq_true_eq] at lower
      exact below (by decide) lower.2
    case isFalse =>
      split at read
      case isTrue upper =>
        simp only [Bool.and_eq_true, decide_eq_true_eq] at upper
        exact below (by decide) upper.2
      case isFalse => cases read

theorem isDigit_of_hexValue? {char : Char} {value : Nat} (read : hexValue? char = some value) :
    IsDigit char value :=
  Text.of_ascii (fun char => ∀ value ∈ hexValue? char, IsDigit char value) (by decide)
    (toNat_of_hexValue? read) value read

theorem IsDigit.ne_plus {char : Char} {value : Nat} (isDigit : IsDigit char value) : char ≠ '+' := by
  rintro rfl
  cases hexValue?_of_isDigit isDigit

theorem IsDigitOrPlus.lt {char : Char} {value : Nat} (taken : IsDigitOrPlus char value) :
    value < 16 := by
  rcases taken with isDigit | ⟨_, zero⟩
  · exact isDigit.lt
  · omega

theorem IsDigitOrPlus.ne_sign {char : Char} {value : Nat} (taken : IsDigitOrPlus char value) :
    char ≠ '#' := by
  rintro rfl
  rcases taken with isDigit | ⟨same, _⟩
  · cases hexValue?_of_isDigit isDigit
  · cases same

theorem isDigit_hexDigit : ∀ value < 16, IsDigit (hexDigit value) value := by
  decide

/-! ### Bytes -/

theorem toNat_eq_iff {byte : UInt8} {value : Nat} (small : value < 256) :
    UInt8.ofNat value = byte ↔ byte.toNat = value := by
  constructor
  · rintro rfl
    exact UInt8.toNat_ofNat_of_lt' small
  · rintro rfl
    exact UInt8.ofNat_toNat

/-- A pair is read as the byte that it stands for. -/
theorem readByte?_eq_some_iff {first second : Char} {byte : UInt8} :
    readByte? first second = some byte ↔
      ∃ high low, IsDigitOrPlus first high ∧ IsDigit second low ∧ byte.toNat = 16 * high + low := by
  constructor
  · intro read
    unfold readByte? at read
    split at read
    case h_1 => cases read
    case h_2 low found =>
      have isDigit := isDigit_of_hexValue? found
      have small := isDigit.lt
      split at read
      case isTrue plus =>
        refine ⟨0, low, Or.inr ⟨plus, rfl⟩, isDigit, ?_⟩
        rw [(toNat_eq_iff (by omega)).mp (Option.some.inj read)]
        omega
      case isFalse =>
        obtain ⟨high, known, value⟩ := Option.map_eq_some_iff.mp read
        have firstIs := isDigit_of_hexValue? known
        have smallHigh := firstIs.lt
        exact ⟨high, low, Or.inl firstIs, isDigit, (toNat_eq_iff (by omega)).mp value⟩
  · rintro ⟨high, low, taken, isDigit, value⟩
    have small := isDigit.lt
    have smallHigh := taken.lt
    unfold readByte?
    rw [hexValue?_of_isDigit isDigit]
    dsimp only
    rcases taken with firstIs | ⟨plus, zero⟩
    · rw [if_neg firstIs.ne_plus, hexValue?_of_isDigit firstIs, Option.map_some,
        (toNat_eq_iff (by omega)).mpr value]
    · have same : UInt8.ofNat low = byte := (toNat_eq_iff (by omega)).mpr (by omega)
      rw [if_pos plus, same]

namespace Spells

variable {First : Char → Nat → Prop} {chars : List Char} {bytes : List UInt8}

theorem eq_nil (spells : Spells First chars []) : chars = [] := by
  cases spells
  rfl

theorem exists_pair {byte : UInt8} (spells : Spells First chars (byte :: bytes)) :
    ∃ first second rest, chars = first :: second :: rest ∧ Spells First rest bytes ∧
      ∃ high low, First first high ∧ IsDigit second low ∧ byte.toNat = 16 * high + low := by
  cases spells with
  | pair firstIs secondIs value rest =>
      exact ⟨_, _, _, rfl, rest, _, _, firstIs, secondIs, value⟩

theorem mono {More : Char → Nat → Prop} (wider : ∀ char value, First char value → More char value)
    (spells : Spells First chars bytes) : Spells More chars bytes := by
  induction spells with
  | nil => exact .nil
  | pair firstIs secondIs value _ ih => exact .pair (wider _ _ firstIs) secondIs value ih

/-- No plus sign is a digit. -/
theorem plus_not_mem (spells : Spells IsDigit chars bytes) : '+' ∉ chars := by
  induction spells with
  | nil => exact List.not_mem_nil
  | pair firstIs secondIs _ _ ih =>
      rw [List.mem_cons, List.mem_cons]
      rintro (same | same | later)
      · exact firstIs.ne_plus same.symm
      · exact secondIs.ne_plus same.symm
      · exact ih later

/-- Without plus signs all that is taken are digits. -/
theorem digits (spells : Spells IsDigitOrPlus chars bytes) (noPlus : '+' ∉ chars) :
    Spells IsDigit chars bytes := by
  induction spells with
  | nil => exact .nil
  | pair firstIs secondIs value _ ih =>
      obtain ⟨different, others⟩ := not_or.mp (mt List.mem_cons.mpr noPlus)
      refine .pair ?_ secondIs value (ih fun later => others (List.mem_cons_of_mem _ later))
      exact firstIs.resolve_right fun plus => different plus.1.symm

theorem hexByte (byte : UInt8) (spells : Spells IsDigit chars bytes) :
    Spells IsDigit (Color.hexByte byte ++ chars) (byte :: bytes) := by
  have small := byte.toNat_lt
  exact .pair (isDigit_hexDigit (byte.toNat / 16) (by omega))
    (isDigit_hexDigit (byte.toNat % 16) (by omega)) (by omega) spells

end Spells

/-! ### Colours -/

section

variable {First : Char → Nat → Prop} {chars : List Char} {color : Color}

theorem SpellsColor.mono {More : Char → Nat → Prop}
    (wider : ∀ char value, First char value → More char value)
    (spells : SpellsColor First chars color) : SpellsColor More chars color :=
  spells.imp (fun six => ⟨six.1.mono wider, six.2⟩) fun eight => eight.mono wider

theorem SpellsColor.head_ne_sign (spells : SpellsColor IsDigitOrPlus chars color) :
    chars.head? ≠ some '#' := by
  have begins {byte : UInt8} {bytes : List UInt8}
      (spells : Spells IsDigitOrPlus chars (byte :: bytes)) : chars.head? ≠ some '#' := by
    obtain ⟨first, second, rest, same, -, high, low, firstIs, -⟩ := spells.exists_pair
    rw [same, List.head?_cons]
    exact fun sign => firstIs.ne_sign (Option.some.inj sign)
  rcases spells with ⟨six, -⟩ | eight
  · exact begins six
  · exact begins eight

end

theorem dropWhile_signs {chars : List Char} (noSign : chars.head? ≠ some '#') (signs : Nat) :
    (List.replicate signs '#' ++ chars).dropWhile (· = '#') = chars := by
  induction signs with
  | zero =>
      cases chars with
      | nil => rfl
      | cons first rest =>
          have different : first ≠ '#' := fun same => noSign (congrArg some same)
          exact List.dropWhile_cons_of_neg (by simpa using different)
  | succ signs ih =>
      rw [List.replicate_succ, List.cons_append, List.dropWhile_cons_of_pos (by decide), ih]

theorem exists_signs (chars : List Char) :
    ∃ signs, chars = List.replicate signs '#' ++ chars.dropWhile (· = '#') := by
  induction chars with
  | nil => exact ⟨0, rfl⟩
  | cons first rest ih =>
      by_cases sign : first = '#'
      · obtain ⟨signs, same⟩ := ih
        refine ⟨signs + 1, ?_⟩
        rw [List.dropWhile_cons_of_pos (by simpa using sign), List.replicate_succ, List.cons_append,
          ← same, sign]
      · exact ⟨0, by rw [List.dropWhile_cons_of_neg (by simpa using sign)]; rfl⟩

/-- What is left behind the number signs is what stands for the colour. -/
theorem denotes_iff {text : String} {color : Color} : Denotes IsDigitOrPlus text color ↔
    SpellsColor IsDigitOrPlus (text.toList.dropWhile (· = '#')) color := by
  constructor
  · rintro ⟨signs, chars, same, spells⟩
    rw [same, dropWhile_signs spells.head_ne_sign]
    exact spells
  · intro spells
    obtain ⟨signs, same⟩ := exists_signs text.toList
    exact ⟨signs, _, same, spells⟩

theorem ofHex?_eq_some_iff {text : String} {color : Color} :
    ofHex? text = some color ↔ Denotes IsDigitOrPlus text color := by
  rw [denotes_iff]
  unfold ofHex?
  generalize text.toList.dropWhile (· = '#') = chars
  have pair {first second : Char} {byte : UInt8} {chars : List Char} {bytes : List UInt8}
      (read : readByte? first second = some byte) (rest : Spells IsDigitOrPlus chars bytes) :
      Spells IsDigitOrPlus (first :: second :: chars) (byte :: bytes) := by
    obtain ⟨high, low, firstIs, secondIs, value⟩ := readByte?_eq_some_iff.mp read
    exact .pair firstIs secondIs value rest
  constructor
  · intro read
    split at read
    case h_1 =>
      simp only [Option.bind_eq_bind, Option.bind_eq_some_iff, Option.some.injEq] at read
      obtain ⟨red, first, green, second, blue, third, rfl⟩ := read
      exact Or.inl ⟨pair first (pair second (pair third .nil)), rfl⟩
    case h_2 =>
      simp only [Option.bind_eq_bind, Option.bind_eq_some_iff, Option.some.injEq] at read
      obtain ⟨red, first, green, second, blue, third, alpha, fourth, rfl⟩ := read
      exact Or.inr (pair first (pair second (pair third (pair fourth .nil))))
    case h_3 => cases read
  · rintro (⟨six, solid⟩ | eight)
    · obtain ⟨a, b, _, rfl, six, red⟩ := six.exists_pair
      obtain ⟨c, d, _, rfl, six, green⟩ := six.exists_pair
      obtain ⟨e, f, _, rfl, six, blue⟩ := six.exists_pair
      rw [six.eq_nil]
      dsimp only
      rw [readByte?_eq_some_iff.mpr red, readByte?_eq_some_iff.mpr green,
        readByte?_eq_some_iff.mpr blue]
      rw [← solid]
      rfl
    · obtain ⟨a, b, _, rfl, eight, red⟩ := eight.exists_pair
      obtain ⟨c, d, _, rfl, eight, green⟩ := eight.exists_pair
      obtain ⟨e, f, _, rfl, eight, blue⟩ := eight.exists_pair
      obtain ⟨g, h, _, rfl, eight, alpha⟩ := eight.exists_pair
      rw [eight.eq_nil]
      dsimp only
      rw [readByte?_eq_some_iff.mpr red, readByte?_eq_some_iff.mpr green,
        readByte?_eq_some_iff.mpr blue, readByte?_eq_some_iff.mpr alpha]
      rfl

/-- What is written for a colour denotes the opaque colour. -/
theorem denotes_toHex (color : Color) : Denotes IsDigit color.toHex { color with alpha := 255 } := by
  refine ⟨1, hexByte color.red ++ (hexByte color.green ++ (hexByte color.blue ++ [])), ?_, ?_⟩
  · rw [toHex, String.toList_append, String.toList_ofList]
    simp
  · exact Or.inl ⟨.hexByte _ (.hexByte _ (.hexByte _ .nil)), rfl⟩

theorem Denotes.mono {First More : Char → Nat → Prop} {text : String} {color : Color}
    (wider : ∀ char value, First char value → More char value) (denotes : Denotes First text color) :
    Denotes More text color := by
  obtain ⟨signs, chars, same, spells⟩ := denotes
  exact ⟨signs, chars, same, spells.mono wider⟩

theorem Denotes.plus_not_mem {text : String} {color : Color} (denotes : Denotes IsDigit text color) :
    '+' ∉ text.toList := by
  obtain ⟨signs, chars, same, spells⟩ := denotes
  rw [same, List.mem_append]
  rintro (inSigns | inChars)
  · cases List.eq_of_mem_replicate inSigns
  · rcases spells with ⟨six, -⟩ | eight
    · exact six.plus_not_mem inChars
    · exact eight.plus_not_mem inChars

theorem Denotes.digits {text : String} {color : Color} (denotes : Denotes IsDigitOrPlus text color)
    (noPlus : '+' ∉ text.toList) : Denotes IsDigit text color := by
  obtain ⟨signs, chars, same, spells⟩ := denotes
  have none : '+' ∉ chars := fun member => noPlus (same ▸ List.mem_append_right _ member)
  exact ⟨signs, chars, same,
    spells.imp (fun six => ⟨six.1.digits none, six.2⟩) fun eight => eight.digits none⟩

/-- What a text is read as, and that the notation says the same of the text exactly if it is
rejected or has no plus sign. What is written for a colour is read back but for the alpha
channel, which is not written. -/
theorem ofHex?_denotes (text : String) (color : Color) :
    (ofHex? text = some color ↔ Denotes IsDigitOrPlus text color) ∧
      ((∀ other, ofHex? text = some other ↔ Denotes IsDigit text other) ↔
        ('+' ∈ text.toList → ofHex? text = none)) ∧
      ofHex? color.toHex = some { color with alpha := 255 } := by
  refine ⟨ofHex?_eq_some_iff, ?_, ?_⟩
  · constructor
    · intro exactly plus
      cases read : ofHex? text with
      | none => rfl
      | some other => exact absurd plus ((exactly other).mp read).plus_not_mem
    · intro rejects other
      rw [ofHex?_eq_some_iff]
      constructor
      · intro denotes
        refine denotes.digits fun plus => ?_
        rw [ofHex?_eq_some_iff.mpr denotes] at rejects
        cases rejects plus
      · exact Denotes.mono fun _ _ => Or.inl
  · exact ofHex?_eq_some_iff.mpr ((denotes_toHex color).mono fun _ _ => Or.inl)

/-- Three pairs with plus signs are read, and denote no colour. -/
theorem ofHex?_plusSigns : ofHex? "#+1+2+3" = some ⟨1, 2, 3, 255⟩ ∧
    ∀ color, ¬Denotes IsDigit "#+1+2+3" color :=
  ⟨by decide, fun _ denotes => denotes.plus_not_mem (by decide)⟩

end DesignExport.Color
