import DesignExport.Text.Blank
import DesignExport.Text.Words
set_option autoImplicit false

/-! Texts of letters, digits and a few harmless signs, and what cutting, lowering and
joining make of them. Lower case makes no sign of ASCII and loses none, and the words of a name
have all of its signs but the ones that they are cut at. -/

namespace DesignExport.Text

/-- All characters of a text are allowed. -/
def Every (allowed : Char → Bool) (text : String) : Prop :=
  ∀ char ∈ text.toList, allowed char = true

instance (allowed : Char → Bool) (text : String) : Decidable (Every allowed text) :=
  List.decidableBAll (fun char => allowed char = true) text.toList

namespace Every

variable {allowed : Char → Bool}

theorem append {front back : String} (first : Every allowed front) (second : Every allowed back) :
    Every allowed (front ++ back) := by
  intro char member
  rw [String.toList_append] at member
  rcases List.mem_append.mp member with early | late
  · exact first char early
  · exact second char late

theorem ofList {chars : List Char} (each : ∀ char ∈ chars, allowed char = true) :
    Every allowed (String.ofList chars) := by
  intro char member
  rw [String.toList_ofList] at member
  exact each char member

theorem mono {more : Char → Bool} {text : String} (every : Every allowed text)
    (wider : ∀ char, allowed char = true → more char = true) : Every more text :=
  fun char member => wider char (every char member)

theorem trim {text : String} (every : Every allowed text) : Every allowed (Text.trim text) := by
  apply ofList
  intro char member
  have kept : char ∈ (trimStart text.toList).reverse :=
    (List.dropWhile_sublist isBlank).subset (List.mem_reverse.mp member)
  exact every char ((List.dropWhile_sublist isBlank).subset (List.mem_reverse.mp kept))

end Every

/-- Letters, digits, points, spaces, hyphens and underscores. -/
def isPlainChar (char : Char) : Bool :=
  char.isAlphanum || char = '.' || char = ' ' || char = '-' || char = '_'

abbrev IsPlain (text : String) : Prop :=
  Every isPlainChar text

/-! ### Facts about the characters of ASCII -/

/-- What holds of the 128 characters of ASCII one by one. -/
theorem of_ascii (property : Char → Prop) (each : ∀ code < 128, property (Char.ofNat code))
    {char : Char} (ascii : char.toNat < 128) : property char := by
  have found := each char.toNat ascii
  rw [Char.ofNat_toNat] at found
  exact found

theorem toNat_of_isAlphanum {char : Char} (letter : char.isAlphanum = true) : char.toNat < 128 := by
  have code : char.val.toNat = char.toNat := rfl
  have capital : 'Z'.val.toNat = 90 := rfl
  have small : 'z'.val.toNat = 122 := rfl
  have digit : '9'.val.toNat = 57 := rfl
  delta Char.isAlphanum Char.isAlpha Char.isUpper Char.isLower Char.isDigit at letter
  simp only [Bool.or_eq_true, Bool.and_eq_true, decide_eq_true_eq, ge_iff_le,
    UInt32.le_iff_toNat_le] at letter
  omega

theorem toNat_of_isPlainChar {char : Char} (plain : isPlainChar char = true) : char.toNat < 128 := by
  simp only [isPlainChar, Bool.or_eq_true, decide_eq_true_eq] at plain
  rcases plain with (((letter | same) | same) | same) | same
  · exact toNat_of_isAlphanum letter
  all_goals
    subst same
    decide

theorem isPlainChar_toLower {char : Char} (plain : isPlainChar char = true) :
    isPlainChar char.toLower = true :=
  of_ascii (fun char => isPlainChar char = true → isPlainChar char.toLower = true)
    (by decide) (toNat_of_isPlainChar plain) plain

theorem isAlphanum_toLower {char : Char} (letter : char.isAlphanum = true) :
    char.toLower.isAlphanum = true :=
  of_ascii (fun char => char.isAlphanum = true → char.toLower.isAlphanum = true)
    (by decide) (toNat_of_isAlphanum letter) letter

theorem isAlphanum_toUpper {char : Char} (letter : char.isAlphanum = true) :
    char.toUpper.isAlphanum = true :=
  of_ascii (fun char => char.isAlphanum = true → char.toUpper.isAlphanum = true)
    (by decide) (toNat_of_isAlphanum letter) letter

/-! ### Lower case -/

theorem lower_of_ascii {text : List Char} (ascii : ∀ char ∈ text, char.toNat < 128) :
    lower text = text.map Char.toLower := by
  have behind (before : List Char) : lowerAfter before text = text.map Char.toLower := by
    induction text generalizing before with
    | nil => rfl
    | cons char text ih =>
        obtain ⟨first, others⟩ := List.forall_mem_cons.mp ascii
        have small : char ≠ 'Σ' := by
          rintro rfl
          exact absurd first (by decide)
        rw [lowerAfter, if_neg small, lowered, if_pos first, List.map_cons, ih others]
        rfl
  exact behind []

/-! ### Words -/

theorem unitsAfter_of_ascii {text : List Char} :
    ∀ {last : Char}, (∀ char ∈ last :: text, char.toNat < 128 ∧ char ≠ '\r') →
      unitsAfter [last] text = (last :: text).map (fun char => [char]) := by
  induction text with
  | nil => exact fun _ => rfl
  | cons char text ih =>
      intro last ascii
      obtain ⟨first, others⟩ := List.forall_mem_cons.mp ascii
      obtain ⟨next, _⟩ := List.forall_mem_cons.mp others
      have apart : continues [last] char = false := by
        have low : ¬128 ≤ last.toNat := Nat.not_le.mpr first.1
        have lowNext : ¬128 ≤ char.toNat := Nat.not_le.mpr next.1
        simp only [continues, first.2, low, lowNext, decide_false, Bool.false_and, Bool.or_self]
      rw [unitsAfter, apart, if_neg Bool.false_ne_true, ih others]
      rfl

/-- Every character of ASCII is a unit of its own, but for line ends of two. -/
theorem units_of_ascii {text : List Char}
    (ascii : ∀ char ∈ text, char.toNat < 128 ∧ char ≠ '\r') :
    units text = text.map (fun char => [char]) := by
  cases text with
  | nil => rfl
  | cons char text => exact unitsAfter_of_ascii ascii

/-- The characters of words come from the units that are cut. -/
theorem mem_of_mem_cutWords {units : List WrittenUnit} :
    ∀ {previous : Option WrittenUnit} {begun word : List Char} {char : Char},
      word ∈ cutWords previous begun units → char ∈ word →
        char ∈ begun ∨ ∃ unit ∈ units, isWordSeparator unit = false ∧ char ∈ unit := by
  induction units with
  | nil =>
      intro previous begun word char found member
      rw [cutWords, List.mem_singleton] at found
      exact Or.inl (found ▸ member)
  | cons unit rest ih =>
      intro previous begun word char found member
      have later {previous : Option WrittenUnit} {next : List Char}
          (inRest : word ∈ cutWords previous next rest)
          (known : char ∈ next → char ∈ begun ∨ isWordSeparator unit = false ∧ char ∈ unit) :
          char ∈ begun ∨ ∃ other ∈ unit :: rest, isWordSeparator other = false ∧ char ∈ other := by
        rcases ih inRest member with here | ⟨other, inside, separates, holds⟩
        · rcases known here with early | ⟨separates, holds⟩
          · exact Or.inl early
          · exact Or.inr ⟨unit, List.mem_cons_self, separates, holds⟩
        · exact Or.inr ⟨other, List.mem_cons_of_mem unit inside, separates, holds⟩
      rw [cutWords] at found
      cases separator : isWordSeparator unit with
      | true =>
          rw [separator, if_pos rfl] at found
          rcases List.mem_cons.mp found with same | inRest
          · exact Or.inl (same ▸ member)
          · exact later inRest fun absent => absurd absent List.not_mem_nil
      | false =>
          rw [separator, if_neg Bool.false_ne_true] at found
          split at found
          · rcases List.mem_cons.mp found with same | inRest
            · exact Or.inl (same ▸ member)
            · exact later inRest fun holds => Or.inr ⟨separator, holds⟩
          · refine later found fun holds => ?_
            rcases List.mem_append.mp holds with early | late
            · exact Or.inl early
            · exact Or.inr ⟨separator, late⟩

theorem mem_of_mem_words {name word : List Char} {char : Char} (found : word ∈ words name)
    (member : char ∈ word) :
    ∃ unit ∈ units name, isWordSeparator unit = false ∧ char ∈ unit := by
  rcases mem_of_mem_cutWords (List.mem_filter.mp found).1 member with absent | inUnit
  · exact absurd absent List.not_mem_nil
  · exact inUnit

theorem mem_of_mem_units {name : List Char} {unit : WrittenUnit} {char : Char}
    (found : unit ∈ units name) (member : char ∈ unit) : char ∈ name := by
  rw [← units_flatten name]
  exact List.mem_flatten_of_mem found member

theorem mem_joinWith {separator : List Char} {char : Char} :
    ∀ {words : List (List Char)}, char ∈ joinWith separator words →
      char ∈ separator ∨ ∃ word ∈ words, char ∈ word
  | [], member => absurd member List.not_mem_nil
  | [word], member => Or.inr ⟨word, List.mem_singleton_self word, member⟩
  | word :: next :: rest, member => by
      rw [joinWith, List.append_assoc, List.mem_append, List.mem_append] at member
      · rcases member with here | between | later
        · exact Or.inr ⟨word, List.mem_cons_self, here⟩
        · exact Or.inl between
        · rcases mem_joinWith later with between | ⟨other, found, holds⟩
          · exact Or.inl between
          · exact Or.inr ⟨other, List.mem_cons_of_mem word found, holds⟩
      · exact List.cons_ne_nil _ _

theorem isPlain_snakeCase {name : String} (plain : IsPlain name) : IsPlain (snakeCase name) := by
  apply Every.ofList
  intro char member
  rcases mem_joinWith member with between | ⟨word, found, holds⟩
  · rw [List.mem_singleton.mp between]
    rfl
  · obtain ⟨raw, inWords, same⟩ := List.mem_map.mp found
    have plainRaw : ∀ other ∈ raw, isPlainChar other = true := by
      intro other inside
      obtain ⟨unit, inUnits, _, inUnit⟩ := mem_of_mem_words inWords inside
      exact plain other (mem_of_mem_units inUnits inUnit)
    rw [← same, lower_of_ascii fun other inside => toNat_of_isPlainChar (plainRaw other inside)]
      at holds
    obtain ⟨other, inside, lowered⟩ := List.mem_map.mp holds
    rw [← lowered]
    exact isPlainChar_toLower (plainRaw other inside)

/-! ### Signs -/

/-- Characters of ASCII below the small letters that are no letters, without the null
character. -/
def isSign (char : Char) : Bool :=
  0 < char.toNat && char.toNat < 97 && !char.isUpper

variable {sign : Char} (isSign : isSign sign = true)

/-- Small letters come after all signs. -/
theorem toLower_eq_or_le_toNat {char : Char} (ascii : char.toNat < 128) :
    char.toLower = char ∨ (char.isUpper = true ∧ 97 ≤ char.toLower.toNat) :=
  of_ascii (fun char => char.toLower = char ∨ (char.isUpper = true ∧ 97 ≤ char.toLower.toNat))
    (by decide) ascii

/-- So do the letters that letters of other scripts are lowered to. -/
theorem le_of_mem_loweredRuns : ∀ run ∈ loweredRuns, (97 : Int) ≤ (run.first : Int) + run.shift := by
  decide +kernel

theorem toNat_ofNat_eq (code : Nat) :
    (Char.ofNat code).toNat = code ∨ (Char.ofNat code).toNat = 0 := by
  unfold Char.ofNat
  by_cases valid : code.isValidChar
  · rw [dif_pos valid]
    exact Or.inl rfl
  · rw [dif_neg valid]
    exact Or.inr rfl

include isSign

/-- The lower case of a character has a sign only if the character is that sign. -/
theorem mem_lowered_iff (char : Char) : sign ∈ lowered char ↔ sign = char := by
  simp only [Text.isSign, Bool.and_eq_true, decide_eq_true_eq, Bool.not_eq_true'] at isSign
  obtain ⟨⟨positive, low⟩, noCapital⟩ := isSign
  have apart {other : Char} (far : 97 ≤ other.toNat ∨ other.toNat = 0) : sign ≠ other := by
    intro same
    rw [same] at positive low
    omega
  unfold lowered
  by_cases ascii : char.toNat < 128
  · rw [if_pos ascii, List.mem_singleton]
    rcases toLower_eq_or_le_toNat ascii with same | ⟨capital, far⟩
    · rw [same]
    · refine iff_of_false (apart (Or.inl far)) fun same => ?_
      rw [same, capital] at noCapital
      cases noCapital
  · have other : sign ≠ char := apart (Or.inl (by omega))
    rw [if_neg ascii]
    refine iff_of_false ?_ other
    split
    · intro member
      rcases List.mem_cons.mp member with same | same
      · exact apart (Or.inl (by decide)) same
      · exact apart (Or.inl (by decide)) (List.mem_singleton.mp same)
    · split
      case h_1 run found =>
        have bound := le_of_mem_loweredRuns run (List.mem_of_find?_eq_some found)
        have begins : run.first ≤ char.toNat := by
          have holds := List.find?_some found
          simp only [CaseRun.holds, Bool.and_eq_true, decide_eq_true_eq] at holds
          exact holds.1.1
        rw [List.mem_singleton]
        apply apart
        rcases toNat_ofNat_eq ((char.toNat : Int) + run.shift).toNat with same | null
        · rw [same]
          omega
        · exact Or.inr null
      case h_2 => exact fun member => other (List.mem_singleton.mp member)

theorem mem_lower_iff (text : List Char) : sign ∈ lower text ↔ sign ∈ text := by
  have behind (before : List Char) : sign ∈ lowerAfter before text ↔ sign ∈ text := by
    induction text generalizing before with
    | nil => rfl
    | cons char text ih =>
        rw [lowerAfter, List.mem_append, ih, List.mem_cons]
        refine or_congr_left ?_
        split
        case isTrue sigma =>
          have low : sign.toNat < 97 := by
            simp only [Text.isSign, Bool.and_eq_true, decide_eq_true_eq] at isSign
            exact isSign.1.2
          have apart {other : Char} (far : 97 ≤ other.toNat) : sign ≠ other := by
            intro same
            rw [same] at low
            omega
          refine iff_of_false ?_ (apart (sigma ▸ by decide))
          split
          · exact fun member => apart (by decide) (List.mem_singleton.mp member)
          · exact fun member => apart (by decide) (List.mem_singleton.mp member)
        case isFalse => exact mem_lowered_iff isSign char
  exact behind []

omit isSign

/-- The words of a name have every character that it is not cut at. -/
theorem exists_mem_cutWords {char : Char} : ∀ {units : List WrittenUnit}
    {previous : Option WrittenUnit} {begun : List Char},
    (char ∈ begun ∨ ∃ unit ∈ units, isWordSeparator unit = false ∧ char ∈ unit) →
      ∃ word ∈ cutWords previous begun units, char ∈ word := by
  intro units
  induction units with
  | nil =>
      rintro previous begun (early | ⟨_, absent, _⟩)
      · exact ⟨begun, List.mem_singleton_self begun, early⟩
      · exact absurd absent List.not_mem_nil
  | cons unit rest ih =>
      intro previous begun known
      -- What is left is in the word begun, in this unit, or in one of the rest.
      have parts : char ∈ begun ∨ (isWordSeparator unit = false ∧ char ∈ unit) ∨
          ∃ other ∈ rest, isWordSeparator other = false ∧ char ∈ other := by
        rcases known with early | ⟨other, member, holds⟩
        · exact Or.inl early
        · rcases List.mem_cons.mp member with same | later
          · exact Or.inr (Or.inl (same ▸ holds))
          · exact Or.inr (Or.inr ⟨other, later, holds⟩)
      have shorter {word : List Char} {next : List (List Char)}
          (found : ∃ other ∈ next, char ∈ other) : ∃ other ∈ word :: next, char ∈ other := by
        obtain ⟨other, member, holds⟩ := found
        exact ⟨other, List.mem_cons_of_mem word member, holds⟩
      rw [cutWords]
      split
      case isTrue separator =>
        rcases parts with early | ⟨letter, _⟩ | later
        · exact ⟨begun, List.mem_cons_self, early⟩
        · rw [separator] at letter
          cases letter
        · exact shorter (ih (Or.inr later))
      case isFalse =>
        split
        · rcases parts with early | ⟨_, here⟩ | later
          · exact ⟨begun, List.mem_cons_self, early⟩
          · exact shorter (ih (Or.inl here))
          · exact shorter (ih (Or.inr later))
        · rcases parts with early | ⟨_, here⟩ | later
          · exact ih (Or.inl (List.mem_append_left unit early))
          · exact ih (Or.inl (List.mem_append_right begun here))
          · exact ih (Or.inr later)

/-- A name is cut at three signs. -/
theorem exists_mem_words {name : List Char} {char : Char} (member : char ∈ name)
    (other : char ≠ '-' ∧ char ≠ '_' ∧ char ≠ ' ') : ∃ word ∈ words name, char ∈ word := by
  rw [← units_flatten name] at member
  obtain ⟨unit, found, holds⟩ := List.mem_flatten.mp member
  have joined : isWordSeparator unit = false := by
    refine Bool.eq_false_iff.mpr fun separator => ?_
    simp only [isWordSeparator, Bool.or_eq_true, beq_iff_eq] at separator
    rcases separator with (same | same) | same
    · exact other.1 (List.mem_singleton.mp (same ▸ holds))
    · exact other.2.1 (List.mem_singleton.mp (same ▸ holds))
    · exact other.2.2 (List.mem_singleton.mp (same ▸ holds))
  obtain ⟨word, cut, inside⟩ : ∃ word ∈ cutWords none [] (units name), char ∈ word :=
    exists_mem_cutWords (Or.inr ⟨unit, found, joined, holds⟩)
  refine ⟨word, List.mem_filter.mpr ⟨cut, ?_⟩, inside⟩
  cases word with
  | nil => exact absurd inside List.not_mem_nil
  | cons => rfl

theorem mem_joinWith_of_mem {separator : List Char} {char : Char} {word : List Char}
    (inside : char ∈ word) : ∀ {words : List (List Char)}, word ∈ words →
      char ∈ joinWith separator words
  | [], absent => absurd absent List.not_mem_nil
  | [only], found => by
      rw [joinWith, ← List.mem_singleton.mp found]
      exact inside
  | first :: next :: rest, found => by
      rw [joinWith, List.append_assoc]
      · rcases List.mem_cons.mp found with same | later
        · exact List.mem_append_left _ (same ▸ inside)
        · exact List.mem_append_right _
            (List.mem_append_right separator (mem_joinWith_of_mem inside later))
      · exact List.cons_ne_nil _ _

include isSign

/-- The words of a name in lower case have the same signs. -/
theorem mem_snakeCase_iff (other : sign ≠ '-' ∧ sign ≠ '_' ∧ sign ≠ ' ') (name : String) :
    sign ∈ (snakeCase name).toList ↔ sign ∈ name.toList := by
  rw [snakeCase, String.toList_ofList]
  constructor
  · intro member
    rcases mem_joinWith member with between | ⟨word, found, holds⟩
    · exact absurd (List.mem_singleton.mp between) other.2.1
    · obtain ⟨raw, inWords, same⟩ := List.mem_map.mp found
      rw [← same, mem_lower_iff isSign] at holds
      obtain ⟨unit, inUnits, _, inUnit⟩ := mem_of_mem_words inWords holds
      exact mem_of_mem_units inUnits inUnit
  · intro member
    obtain ⟨word, found, inside⟩ := exists_mem_words member other
    exact mem_joinWith_of_mem ((mem_lower_iff isSign word).mpr inside) (List.mem_map_of_mem found)

end DesignExport.Text
