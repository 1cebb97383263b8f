import DesignExport.Layout.Alignment
import DesignExport.Proofs.Number.Rational
set_option autoImplicit false

/-! What the code of a layout says in numbers, against the geometry that it was deduced from. The
tests behind the short forms are made up to a tolerance, and nearness is not transitive: a
value is surely near where it was itself compared with what stands for it. -/

namespace DesignExport

theorem tolerance_eq : (tolerance : Rat) = 1 / 2 := by
  decide +kernel

theorem almostEqual_iff (first second within : Rat) :
    almostEqual first second within = true ↔ |first - second| < within := by
  unfold almostEqual
  rw [Scalar.abs_eq_abs]
  exact decide_eq_true_iff

/-! ### Insets -/

namespace EdgeInsets

/-- The code of a constructor and the insets it makes. Behind each number stands the unit. -/
inductive Denotes (unit : String) : String → EdgeInsets Rat → Prop where
  | all {text : String} {value : Rat} (reads : Number.decimalValue? text = some value) :
      Denotes unit ("EdgeInsets.all(" ++ (text ++ unit) ++ ")")
        { left := value, top := value, right := value, bottom := value }
  | symmetric {first second : String} {horizontal vertical : Rat}
      (across : Number.decimalValue? first = some horizontal)
      (along : Number.decimalValue? second = some vertical) :
      Denotes unit ("EdgeInsets.symmetric(horizontal: " ++ (first ++ unit) ++ ", vertical: " ++
          (second ++ unit) ++ ")")
        { left := horizontal, top := vertical, right := horizontal, bottom := vertical }
  | sides {first second third fourth : String} {left top right bottom : Rat}
      (leftReads : Number.decimalValue? first = some left)
      (topReads : Number.decimalValue? second = some top)
      (rightReads : Number.decimalValue? third = some right)
      (bottomReads : Number.decimalValue? fourth = some bottom) :
      Denotes unit ("EdgeInsets.fromLTRB(" ++ (first ++ unit) ++ ", " ++ (second ++ unit) ++ ", " ++
          (third ++ unit) ++ ", " ++ (fourth ++ unit) ++ ")")
        { left := left, top := top, right := right, bottom := bottom }

/-- Up to the next comma there is one number. -/
theorem number_unique {unit first second separator : String} {value other : Rat} {rest tail : List Char}
    (plain : ',' ∉ unit.toList) (comma : separator.toList.head? = some ',')
    (reads : Number.decimalValue? first = some value) (also : Number.decimalValue? second = some other)
    (same : first.toList ++ (unit.toList ++ (separator.toList ++ rest)) =
      second.toList ++ (unit.toList ++ (separator.toList ++ tail))) : value = other ∧ rest = tail := by
  have before {text : String} {number : Rat} (found : Number.decimalValue? text = some number)
      (back : List Char) :
      (text.toList ++ (unit.toList ++ (separator.toList ++ back))).takeWhile (· ≠ ',') =
        text.toList ++ unit.toList := by
    have inside : ∀ char ∈ text.toList ++ unit.toList, decide (char ≠ ',') = true := by
      intro char member
      apply decide_eq_true
      rintro rfl
      rcases List.mem_append.mp member with own | behind
      · exact Number.not_comma_of_decimalValue? found own
      · exact plain behind
    obtain ⟨blank, split⟩ := List.head?_eq_some_iff.mp comma
    rw [← List.append_assoc, List.takeWhile_append_of_pos inside, split]
    simp
  have fronts := (before reads rest).symm.trans ((congrArg _ same).trans (before also tail))
  have texts : first = second := String.toList_inj.mp (List.append_cancel_right fronts)
  subst texts
  have backs := List.append_cancel_left (List.append_cancel_left (List.append_cancel_left same))
  exact ⟨Option.some.inj (reads.symm.trans also), backs⟩

/-- The last number ends where the rest of the code begins. -/
theorem last_unique {unit first second : String} {value other : Rat} {rest : List Char}
    (reads : Number.decimalValue? first = some value) (also : Number.decimalValue? second = some other)
    (same : first.toList ++ (unit.toList ++ rest) = second.toList ++ (unit.toList ++ rest)) :
    value = other := by
  have texts : first = second := String.toList_inj.mp (List.append_cancel_right same)
  subst texts
  exact Option.some.inj (reads.symm.trans also)

/-- Code makes one kind of insets, unless the unit has a comma that could end a number. -/
theorem Denotes.unique {unit code : String} {made other : EdgeInsets Rat} (plain : ',' ∉ unit.toList)
    (denotes : Denotes unit code made) (again : Denotes unit code other) : made = other := by
  -- Codes with different names differ, and behind the same name the numbers are cut off in turn.
  obtain ⟨text, also, same⟩ : ∃ text, Denotes unit text other ∧ text = code := ⟨code, again, rfl⟩
  clear again
  have chars := congrArg String.toList same
  cases denotes with
  | all reads =>
      cases also <;> simp only [String.toList_append, List.append_assoc] at chars
      case all alsoReads => rw [last_unique alsoReads reads (List.append_cancel_left chars)]
      case symmetric => simp at chars
      case sides => simp at chars
  | symmetric across along =>
      cases also <;> simp only [String.toList_append, List.append_assoc] at chars
      case all => simp at chars
      case symmetric alsoAcross alsoAlong =>
        obtain ⟨horizontal, rest⟩ := number_unique plain rfl alsoAcross across (List.append_cancel_left chars)
        rw [horizontal, last_unique alsoAlong along rest]
      case sides => simp at chars
  | sides left top right bottom =>
      cases also <;> simp only [String.toList_append, List.append_assoc] at chars
      case all => simp at chars
      case symmetric => simp at chars
      case sides alsoLeft alsoTop alsoRight alsoBottom =>
        obtain ⟨first, rest⟩ := number_unique plain rfl alsoLeft left (List.append_cancel_left chars)
        obtain ⟨second, rest⟩ := number_unique plain rfl alsoTop top rest
        obtain ⟨third, rest⟩ := number_unique plain rfl alsoRight right rest
        rw [first, second, third, last_unique alsoBottom bottom rest]

/-! ### The constructor that is written -/

/-- The insets whose sides are rounded as they are written. -/
theorem denotes_rounded (insets : EdgeInsets Rat) (unit : String) :
    Denotes unit (insets.write unit)
      { left := Scalar.roundTo insets.form.insets.left 1
        top := Scalar.roundTo insets.form.insets.top 1
        right := Scalar.roundTo insets.form.insets.right 1
        bottom := Scalar.roundTo insets.form.insets.bottom 1 } := by
  have reads := Scalar.decimalValue?_fixed
  unfold write
  cases insets.form with
  | all value => exact .all (reads value)
  | symmetric horizontal vertical => exact .symmetric (reads horizontal) (reads vertical)
  | sides left top right bottom => exact .sides (reads left) (reads top) (reads right) (reads bottom)

theorem abs_roundTo_sub_lt {value side bound : Rat} (near : |value - side| < bound) :
    |Scalar.roundTo value 1 - side| < bound + 1 / 20 := by
  have rounded := Scalar.abs_roundTo_one_sub_le value
  have split := abs_sub_le (Scalar.roundTo value 1) value side
  linarith

section Sides

variable {insets : EdgeInsets Rat}

theorem near_of_isSymmetric (symmetric : insets.isSymmetric = true) :
    |insets.left - insets.right| < tolerance ∧ |insets.top - insets.bottom| < tolerance := by
  have sides := Bool.and_eq_true_iff.mp symmetric
  rw [almostEqual_iff, almostEqual_iff] at sides
  exact sides

theorem near_of_isUniform (uniform : insets.isUniform = true) :
    |insets.left - insets.right| < tolerance ∧ |insets.top - insets.bottom| < tolerance ∧
      |insets.left - insets.top| < tolerance := by
  have parts := Bool.and_eq_true_iff.mp uniform
  obtain ⟨across, along⟩ := near_of_isSymmetric parts.1
  exact ⟨across, along, (almostEqual_iff _ _ _).mp parts.2⟩

end Sides

/-- The sides of the constructor before they are rounded. The bottom of uniform insets is compared
with the top, and only the top with the left side that stands for all. -/
theorem form_near (insets : EdgeInsets Rat) :
    |insets.form.insets.left - insets.left| < tolerance ∧
      |insets.form.insets.top - insets.top| < tolerance ∧
      |insets.form.insets.right - insets.right| < tolerance ∧
      |insets.form.insets.bottom - insets.bottom| < 2 * tolerance ∧
      (insets.isUniform = false ∨ |insets.left - insets.bottom| < tolerance →
        |insets.form.insets.bottom - insets.bottom| < tolerance) := by
  have same (value : Rat) : |value - value| < tolerance := by
    rw [sub_self, abs_zero, tolerance_eq]
    norm_num
  have wider {distance : Rat} (near : distance < tolerance) : distance < 2 * tolerance := by
    rw [tolerance_eq] at near ⊢
    linarith
  unfold form
  split
  case isTrue uniform =>
    obtain ⟨across, along, corner⟩ := near_of_isUniform uniform
    have chain := abs_sub_le insets.left insets.top insets.bottom
    refine ⟨same _, corner, across, ?_, ?_⟩
    · change |insets.left - insets.bottom| < 2 * tolerance
      linarith
    · rintro (other | near)
      · rw [uniform] at other
        cases other
      · exact near
  case isFalse =>
    split
    case isTrue symmetric =>
      obtain ⟨across, along⟩ := near_of_isSymmetric symmetric
      exact ⟨same _, same _, across, wider along, fun _ => along⟩
    case isFalse => exact ⟨same _, same _, same _, wider (same _), fun _ => same _⟩

/-- The constructor that is written makes each side within the tolerance and half a tenth for its
one decimal place. Only the bottom of uniform insets may be twice as far off, where it is not
compared with the left side. -/
theorem write_denotes (insets : EdgeInsets Rat) (unit : String) :
    ∃ made, Denotes unit (insets.write unit) made ∧
      (',' ∉ unit.toList → ∀ other, Denotes unit (insets.write unit) other → other = made) ∧
      |made.left - insets.left| < tolerance + 0.05 ∧ |made.top - insets.top| < tolerance + 0.05 ∧
      |made.right - insets.right| < tolerance + 0.05 ∧
      |made.bottom - insets.bottom| < 2 * tolerance + 0.05 ∧
      (insets.isUniform = false ∨ |insets.left - insets.bottom| < tolerance →
        |made.bottom - insets.bottom| < tolerance + 0.05) := by
  have places : (0.05 : Rat) = 1 / 20 := by norm_num
  have denotes := denotes_rounded insets unit
  obtain ⟨left, top, right, far, near⟩ := form_near insets
  rw [places]
  refine ⟨_, denotes, fun plain other also => also.unique plain denotes, ?_, ?_, ?_, ?_, ?_⟩
  · exact abs_roundTo_sub_lt left
  · exact abs_roundTo_sub_lt top
  · exact abs_roundTo_sub_lt right
  · exact abs_roundTo_sub_lt far
  · exact fun compared => abs_roundTo_sub_lt (near compared)

/-- Each side is near the next one, and the bottom is not near the left side. -/
def slantedInsets : EdgeInsets Rat :=
  { top := 10.4, right := 10, bottom := 10.8, left := 10 }

theorem write_slantedInsets : slantedInsets.write "" = "EdgeInsets.all(10)" ∧
    ∀ made, Denotes "" (slantedInsets.write "") made →
      tolerance + 0.05 ≤ |made.bottom - slantedInsets.bottom| := by
  refine ⟨by decide +kernel, fun made denotes => ?_⟩
  rw [denotes.unique (by decide) (denotes_rounded slantedInsets "")]
  decide +kernel

end EdgeInsets

/-! ### Alignments -/

/-- The component of an alignment that an anchor stands for. -/
def Anchor.component : Anchor → Rat
  | .start => -1
  | .middle => 0
  | .finish => 1

/-- The part of the free space of an axis that comes before an aligned box. -/
def spaceBefore (component free : Rat) : Rat :=
  (1 + component) / 2 * free

namespace Alignment

def across : Alignment Rat → Rat
  | .named _ horizontal => horizontal.component
  | .fractional x _ => x

def along : Alignment Rat → Rat
  | .named vertical _ => vertical.component
  | .fractional _ y => y

/-- Where a box of the size of `bounds` is put in its parent. -/
def place (alignment : Alignment Rat) (bounds parent : Rect Rat) : Point Rat :=
  ⟨spaceBefore alignment.across (parent.width - bounds.width),
    spaceBefore alignment.along (parent.height - bounds.height)⟩

end Alignment

/-- There is next to no free space to align in, and half of it is not near the offset. -/
def Displaces (offset free : Rat) : Prop :=
  |free| < 2.220446049250313e-16 ∧ tolerance ≤ |free / 2 - offset|

namespace Alignment

end Alignment

end DesignExport
