import DesignExport.Expression.Template
import DesignExport.Proofs.Text.Search
set_option autoImplicit false

/-! Where the placeholder of a template stands. A placeholder is one of two names between
angle brackets, with settings between braces behind the name or without them; a template
is cut around the one that begins first, and text that only looks like one stays text. -/

namespace DesignExport.Template

/-- The placeholder as it stands in the template. -/
def Cut.matched (cut : Cut) : List Char :=
  '<' :: cut.placeholder.name.toList ++ (cut.settings.getD [] ++ ['>'])

/-- Settings stand between braces, and the closing one is the first of its kind. -/
def IsBraced (settings : List Char) : Prop :=
  ∃ inner : List Char, '}' ∉ inner ∧ settings = '{' :: inner ++ ['}']

/-- A way to cut a text around a placeholder, be it the first one or not. -/
structure Cut.IsOf (cut : Cut) (text : List Char) : Prop where
  whole : text = cut.before ++ cut.matched ++ cut.after
  braced : ∀ settings ∈ cut.settings, IsBraced settings

/-- No placeholder begins in front of the one that the text is cut around. -/
structure Cut.IsFirstOf (cut : Cut) (text : List Char) : Prop extends cut.IsOf text where
  first : ∀ other : Cut, other.IsOf text → cut.before.length ≤ other.before.length

/-- A cut of a text that has one more character in front. -/
def Cut.behind (char : Char) (cut : Cut) : Cut :=
  { cut with before := char :: cut.before }

/-! ### One placeholder -/

theorem takeSettings?_append {inner : List Char} (unclosed : '}' ∉ inner) (after : List Char) :
    takeSettings? (inner ++ '}' :: after) = some (inner ++ ['}'], after) := by
  induction inner with
  | nil => rfl
  | cons char rest ih =>
      obtain ⟨own, others⟩ := not_or.mp (mt List.mem_cons.mpr unclosed)
      rw [List.cons_append, takeSettings?, if_neg (Ne.symm own), ih others]
      rfl

theorem exists_of_takeSettings? : ∀ {text settings after : List Char},
    takeSettings? text = some (settings, after) →
      ∃ inner, '}' ∉ inner ∧ settings = inner ++ ['}'] ∧ text = settings ++ after
  | [], _, _, found => by cases found
  | char :: rest, settings, after, found => by
      rw [takeSettings?] at found
      split at found
      case isTrue closing =>
        cases found
        exact ⟨[], List.not_mem_nil, by rw [closing]; rfl, rfl⟩
      case isFalse other =>
        obtain ⟨⟨front, back⟩, later, same⟩ := Option.map_eq_some_iff.mp found
        cases same
        obtain ⟨inner, unclosed, rfl, rfl⟩ := exists_of_takeSettings? later
        exact ⟨char :: inner, mt List.mem_cons.mp (not_or.mpr ⟨Ne.symm other, unclosed⟩), rfl, rfl⟩

theorem takeEnd?_eq_some_iff {text after : List Char} {settings : Option (List Char)} :
    takeEnd? text = some (settings, after) ↔
      text = settings.getD [] ++ ['>'] ++ after ∧ ∀ braced ∈ settings, IsBraced braced := by
  constructor
  · intro found
    unfold takeEnd? at found
    split at found
    case h_1 rest =>
      cases found
      exact ⟨rfl, fun _ none => by cases none⟩
    case h_2 rest =>
      split at found
      case h_1 closed behind taken =>
        cases found
        obtain ⟨inner, unclosed, rfl, rfl⟩ := exists_of_takeSettings? taken
        refine ⟨by simp, ?_⟩
        rintro braced ⟨⟩
        exact ⟨inner, unclosed, rfl⟩
      case h_2 => cases found
    case h_3 => cases found
  · rintro ⟨rfl, braced⟩
    cases settings with
    | none => rfl
    | some settings =>
        obtain ⟨inner, unclosed, rfl⟩ := braced settings rfl
        have taken := takeSettings?_append unclosed ('>' :: after)
        simp only [Option.getD_some, List.cons_append, List.append_assoc, List.nil_append, takeEnd?,
          taken]

theorem takePlaceholder?_eq_some_iff {text after : List Char} {placeholder : Placeholder}
    {settings : Option (List Char)} :
    takePlaceholder? text = some (placeholder, settings, after) ↔
      Cut.IsOf ⟨[], placeholder, settings, after⟩ text := by
  constructor
  · intro found
    obtain ⟨wanted, -, taken⟩ := List.exists_of_findSome?_eq_some found
    obtain ⟨rest, start, ended⟩ := Option.bind_eq_some_iff.mp taken
    obtain ⟨⟨inner, behind⟩, stop, same⟩ := Option.map_eq_some_iff.mp ended
    cases same
    obtain ⟨rfl, braced⟩ := takeEnd?_eq_some_iff.mp stop
    rw [Text.eq_append_of_afterStart? start]
    exact ⟨(List.append_assoc _ _ _).symm, braced⟩
  · rintro ⟨whole, braced⟩
    have stop : takeEnd? (settings.getD [] ++ ['>'] ++ after) = some (settings, after) :=
      takeEnd?_eq_some_iff.mpr ⟨rfl, braced⟩
    have start := Text.afterStart?_append ('<' :: placeholder.name.toList)
      (settings.getD [] ++ ['>'] ++ after)
    rw [show text = '<' :: placeholder.name.toList ++ (settings.getD [] ++ ['>'] ++ after) from
      whole.trans (List.append_assoc ('<' :: placeholder.name.toList) _ after)]
    cases placeholder with
    | children => rw [takePlaceholder?, List.findSome?_cons, start, Option.bind_some, stop]; rfl
    | this =>
        -- The names differ in their first letter.
        have other : Text.afterStart? ('<' :: Placeholder.children.name.toList)
            ('<' :: Placeholder.this.name.toList ++ (settings.getD [] ++ ['>'] ++ after)) = none := rfl
        rw [takePlaceholder?, List.findSome?_cons, other, Option.bind_none, List.findSome?_cons, start,
          Option.bind_some, stop]
        rfl

/-! ### The first placeholder -/

namespace Cut

theorem not_isOf_nil (cut : Cut) : ¬cut.IsOf [] := by
  rintro ⟨whole, -⟩
  have filled : cut.matched ≠ [] := List.cons_ne_nil _ _
  simp_all

/-- A text is cut at its first character or further behind. -/
theorem isOf_cons_iff {cut : Cut} {char : Char} {rest : List Char} :
    cut.IsOf (char :: rest) ↔
      (cut.before = [] ∧
        takePlaceholder? (char :: rest) = some (cut.placeholder, cut.settings, cut.after)) ∨
      ∃ later : Cut, later.IsOf rest ∧ cut = later.behind char := by
  constructor
  · obtain ⟨before, placeholder, settings, after⟩ := cut
    rintro ⟨whole, braced⟩
    cases before with
    | nil => exact .inl ⟨rfl, takePlaceholder?_eq_some_iff.mpr ⟨whole, braced⟩⟩
    | cons front before =>
        obtain ⟨rfl, inside⟩ := List.cons.inj whole
        exact .inr ⟨⟨before, placeholder, settings, after⟩, ⟨inside, braced⟩, rfl⟩
  · rintro (⟨atStart, taken⟩ | ⟨later, ⟨whole, braced⟩, rfl⟩)
    · obtain ⟨before, placeholder, settings, after⟩ := cut
      cases atStart
      exact takePlaceholder?_eq_some_iff.mp taken
    · exact ⟨congrArg (char :: ·) whole, braced⟩

/-- If the text starts with a placeholder, then this is the first one. -/
theorem isFirstOf_iff_of_taken {cut : Cut} {text after : List Char} {placeholder : Placeholder}
    {settings : Option (List Char)}
    (taken : takePlaceholder? text = some (placeholder, settings, after)) :
    cut.IsFirstOf text ↔ cut = ⟨[], placeholder, settings, after⟩ := by
  have start := takePlaceholder?_eq_some_iff.mp taken
  constructor
  · rintro ⟨isOf, first⟩
    obtain ⟨before, named, own, rest⟩ := cut
    obtain rfl : before = [] := List.length_eq_zero_iff.mp (Nat.le_zero.mp (first _ start))
    have same := (takePlaceholder?_eq_some_iff.mpr isOf).symm.trans taken
    cases same
    rfl
  · rintro rfl
    exact ⟨start, fun _ _ => Nat.zero_le _⟩

/-- If the text does not start with one, then the first one is the first of the rest. -/
theorem isFirstOf_cons_iff {cut : Cut} {char : Char} {rest : List Char}
    (none : takePlaceholder? (char :: rest) = none) :
    cut.IsFirstOf (char :: rest) ↔ ∃ later : Cut, later.IsFirstOf rest ∧ cut = later.behind char := by
  have further {other : Cut} :
      other.IsOf (char :: rest) ↔ ∃ later : Cut, later.IsOf rest ∧ other = later.behind char := by
    rw [isOf_cons_iff, none]
    simp
  constructor
  · rintro ⟨isOf, first⟩
    obtain ⟨later, inside, rfl⟩ := further.mp isOf
    refine ⟨later, ⟨inside, fun other found => ?_⟩, rfl⟩
    exact Nat.le_of_succ_le_succ (first (other.behind char) (further.mpr ⟨other, found, rfl⟩))
  · rintro ⟨later, ⟨inside, first⟩, rfl⟩
    refine ⟨further.mpr ⟨later, inside, rfl⟩, fun other found => ?_⟩
    obtain ⟨behind, within, rfl⟩ := further.mp found
    exact Nat.succ_le_succ (first behind within)

end Cut

/-- A template is cut around the placeholder that begins first. -/
theorem cut?_eq_some_iff : ∀ {text : List Char} {cut : Cut},
    cut? text = some cut ↔ cut.IsFirstOf text
  | [], cut => iff_of_false nofun fun first => cut.not_isOf_nil first.toIsOf
  | char :: rest, cut => by
      rw [cut?]
      split
      case h_1 placeholder settings after taken =>
        rw [Cut.isFirstOf_iff_of_taken taken, Option.some.injEq, eq_comm]
      case h_2 none =>
        rw [Cut.isFirstOf_cons_iff none, Option.map_eq_some_iff]
        exact exists_congr fun later => and_congr cut?_eq_some_iff eq_comm

/-- There is one first placeholder at most. -/
theorem Cut.IsFirstOf.unique {one other : Cut} {text : List Char} (first : one.IsFirstOf text)
    (also : other.IsFirstOf text) : one = other :=
  Option.some.inj ((cut?_eq_some_iff.mpr first).symm.trans (cut?_eq_some_iff.mpr also))

/-- A template is left whole if there is no way to cut it. -/
theorem cut?_eq_none_iff : ∀ {text : List Char},
    cut? text = none ↔ ∀ cut : Cut, ¬cut.IsOf text
  | [] => iff_of_true rfl Cut.not_isOf_nil
  | char :: rest => by
      rw [cut?]
      split
      case h_1 placeholder settings after taken =>
        refine iff_of_false (Option.some_ne_none _) fun nowhere => ?_
        exact nowhere _ (takePlaceholder?_eq_some_iff.mp taken)
      case h_2 none =>
        rw [Option.map_eq_none_iff, cut?_eq_none_iff]
        constructor
        · intro nowhere cut isOf
          rcases Cut.isOf_cons_iff.mp isOf with ⟨-, taken⟩ | ⟨later, inside, -⟩
          · rw [none] at taken
            cases taken
          · exact nowhere later inside
        · intro nowhere later inside
          exact nowhere _ (Cut.isOf_cons_iff.mpr (.inr ⟨later, inside, rfl⟩))

/-- A name with a blank behind it and a name in small letters make no placeholder, and what
follows the first one is not looked at. -/
example : cut? "<CHILDREN ><this><THIS\x7b'a':1\x7d><CHILDREN>".toList =
    some ⟨"<CHILDREN ><this>".toList, .this, some "\x7b'a':1\x7d".toList, "<CHILDREN>".toList⟩ := by
  decide

end DesignExport.Template
