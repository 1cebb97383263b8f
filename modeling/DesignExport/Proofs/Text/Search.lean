import DesignExport.Text.Blank
import DesignExport.Text.Search
set_option autoImplicit false

/-! Where a piece of text is found, and what a text holds between the blanks around it. -/

namespace DesignExport.Text

theorem eq_append_of_afterStart? : ∀ {piece text rest : List Char},
    afterStart? piece text = some rest → text = piece ++ rest
  | [], _, _, found => by
      cases found
      rfl
  | _ :: _, [], _, found => by cases found
  | expected :: piece, char :: text, rest, found => by
      rw [afterStart?] at found
      split at found
      case isTrue same => rw [same, eq_append_of_afterStart? found, List.cons_append]
      case isFalse => cases found

theorem afterStart?_append (piece rest : List Char) : afterStart? piece (piece ++ rest) = some rest := by
  induction piece with
  | nil => rfl
  | cons char piece ih => rw [List.cons_append, afterStart?, if_pos rfl, ih]

theorem eq_append_of_cutAround? {piece : List Char} : ∀ {text before after : List Char},
    cutAround? piece text = some (before, after) → text = before ++ piece ++ after
  | [], before, after, found => by
      obtain ⟨rest, start, same⟩ := Option.map_eq_some_iff.mp found
      cases same
      exact eq_append_of_afterStart? start
  | char :: text, before, after, found => by
      rw [cutAround?] at found
      split at found
      case h_1 rest start =>
        cases found
        exact eq_append_of_afterStart? start
      case h_2 =>
        obtain ⟨⟨front, back⟩, later, same⟩ := Option.map_eq_some_iff.mp found
        cases same
        rw [eq_append_of_cutAround? later]
        rfl

theorem isInfix_between (front piece back : String) :
    piece.toList <:+: (front ++ piece ++ back).toList :=
  ⟨front.toList, back.toList, by rw [String.toList_append, String.toList_append]⟩

theorem isInfix_behind (front piece back : String) :
    piece.toList <:+: (front ++ (piece ++ back)).toList := by
  rw [← String.append_assoc]
  exact isInfix_between front piece back

/-- A character is found in front of which it does not occur. -/
theorem cutAround?_singleton {char : Char} (after : List Char) :
    ∀ {before : List Char}, char ∉ before →
      cutAround? [char] (before ++ char :: after) = some (before, after)
  | [], _ => by
      rw [List.nil_append, cutAround?, afterStart?, if_pos rfl]
      rfl
  | first :: before, absent => by
      have different : char ≠ first := fun same => absent (same ▸ List.mem_cons_self)
      have later : cutAround? [char] (before ++ char :: after) = some (before, after) :=
        cutAround?_singleton after fun member => absent (List.mem_cons_of_mem first member)
      rw [List.cons_append, cutAround?, afterStart?, if_neg different, later]
      rfl

/-! ### Blanks -/

/-- A text is another one between blanks, and that one neither starts nor ends with a blank. -/
structure Trims (text trimmed : List Char) : Prop where
  around : ∃ front back : List Char, text = front ++ (trimmed ++ back) ∧
    (∀ char ∈ front, isBlank char = true) ∧ ∀ char ∈ back, isBlank char = true
  starts : ∀ char ∈ trimmed.head?, isBlank char = false
  ends : ∀ char ∈ trimmed.getLast?, isBlank char = false

theorem isBlank_of_mem_head?_trimStart {text : List Char} :
    ∀ char ∈ (trimStart text).head?, isBlank char = false := by
  intro char starts
  have first := List.head?_dropWhile_not isBlank text
  rw [trimStart, Option.mem_def] at starts
  rwa [starts] at first

theorem trimStart_append {front rest : List Char} (blank : ∀ char ∈ front, isBlank char = true)
    (starts : ∀ char ∈ rest.head?, isBlank char = false) : trimStart (front ++ rest) = rest := by
  rw [trimStart, List.dropWhile_append_of_pos blank]
  cases rest with
  | nil => rfl
  | cons char rest => rw [List.dropWhile_cons_of_neg (by simp [starts char rfl])]

theorem trimEnd_eq_reverse (text : List Char) : trimEnd text = (trimStart text.reverse).reverse :=
  rfl

theorem exists_append_trimStart (text : List Char) :
    ∃ front : List Char, text = front ++ trimStart text ∧ ∀ char ∈ front, isBlank char = true :=
  ⟨text.takeWhile isBlank, List.takeWhile_append_dropWhile.symm,
    List.all_eq_true.mp List.all_takeWhile⟩

theorem exists_trimEnd_append (text : List Char) :
    ∃ back : List Char, text = trimEnd text ++ back ∧ ∀ char ∈ back, isBlank char = true := by
  obtain ⟨front, whole, blank⟩ := exists_append_trimStart text.reverse
  refine ⟨front.reverse, ?_, fun char member => blank char (List.mem_reverse.mp member)⟩
  rw [trimEnd_eq_reverse, ← List.reverse_append, ← whole, List.reverse_reverse]

theorem trims_trim (text : List Char) : Trims text (trimEnd (trimStart text)) := by
  obtain ⟨front, whole, blankFront⟩ := exists_append_trimStart text
  obtain ⟨back, rest, blankBack⟩ := exists_trimEnd_append (trimStart text)
  refine ⟨⟨front, back, by rw [← rest, ← whole], blankFront, blankBack⟩, ?_, ?_⟩
  · intro char starts
    have first : char ∈ (trimStart text).head? := by
      rw [rest, Option.mem_def, List.head?_append, Option.mem_def.mp starts, Option.some_or]
    exact isBlank_of_mem_head?_trimStart char first
  · intro char ends
    rw [trimEnd_eq_reverse, List.getLast?_reverse] at ends
    exact isBlank_of_mem_head?_trimStart char ends

theorem trims_iff {text trimmed : List Char} :
    Trims text trimmed ↔ trimEnd (trimStart text) = trimmed := by
  constructor
  · rintro ⟨⟨front, back, rfl, blankFront, blankBack⟩, starts, ends⟩
    cases trimmed with
    | nil =>
        -- Nothing tells here where the blanks in front end.
        have blank : ∀ char ∈ front ++ back, isBlank char = true :=
          List.forall_mem_append.mpr ⟨blankFront, blankBack⟩
        have gone : trimStart (front ++ back ++ []) = [] := trimStart_append blank nofun
        rw [List.append_nil] at gone
        rw [List.nil_append, gone]
        rfl
    | cons char rest =>
        have inFront : trimStart (front ++ (char :: rest ++ back)) = char :: rest ++ back :=
          trimStart_append blankFront starts
        have behind : trimStart (back.reverse ++ (char :: rest).reverse) = (char :: rest).reverse := by
          refine trimStart_append (fun other member => blankBack other (List.mem_reverse.mp member)) ?_
          rwa [List.head?_reverse]
        rw [inFront, trimEnd_eq_reverse, List.reverse_append, behind, List.reverse_reverse]
  · rintro rfl
    exact trims_trim text

theorem Trims.unique {text one other : List Char} (trims : Trims text one) (also : Trims text other) :
    one = other :=
  (trims_iff.mp trims).symm.trans (trims_iff.mp also)

/-- Nothing is left of a text if and only if it holds nothing but blanks. -/
theorem trims_nil_iff {text : List Char} : Trims text [] ↔ ∀ char ∈ text, isBlank char = true := by
  constructor
  · rintro ⟨⟨front, back, rfl, blankFront, blankBack⟩, -⟩
    exact List.forall_mem_append.mpr ⟨blankFront, blankBack⟩
  · intro blank
    exact ⟨⟨text, [], (List.append_nil text).symm, blank, nofun⟩, nofun, nofun⟩

end DesignExport.Text
