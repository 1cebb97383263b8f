import DesignExport.Proofs.Dart.Values
import DesignExport.Proofs.Text.Search
import DesignExport.Tree.Decoration
import Mathlib.Data.List.Infix
set_option autoImplicit false

/-! Comments with the names of layers. A name of one line stays inside its comment: the comment
is a line that can be deleted again, and whoever reads calls reads the same with and without it.
A line end in the name ends the comment, and what follows the line end is code. -/

namespace DesignExport

open DesignExport.Dart

/-! ### Lines of layers -/

/-- What the comments with the names of layers begin with. -/
def layerMark : List Char :=
  ['/', '/', ' ', 'L', 'a', 'y', 'e', 'r', ':']

/-- Deletes the lines that begin with the mark, with the line breaks around them, given whether
one is in such a line. -/
def deleteLayerLines : Bool → List Char → List Char
  | _, [] => []
  | true, char :: rest => deleteLayerLines (!isLineEnd char) rest
  | false, char :: rest =>
      if isLineEnd char && layerMark.isPrefixOf rest then deleteLayerLines true rest
      else char :: deleteLayerLines false rest

def withoutLayerLines (code : List Char) : List Char :=
  deleteLayerLines (layerMark.isPrefixOf code) code

/-- A line is deleted up to its end. -/
theorem deleteLayerLines_line {line : List Char} (oneLine : ∀ char ∈ line, isLineEnd char = false)
    (after : List Char) :
    deleteLayerLines true (line ++ '\n' :: after) = deleteLayerLines false after := by
  induction line with
  | nil => rfl
  | cons char line ih =>
      obtain ⟨first, others⟩ := List.forall_mem_cons.mp oneLine
      rw [List.cons_append, deleteLayerLines, first]
      exact ih others

theorem isPrefixOf_layerMark_cons {char : Char} (other : char ≠ '/') (rest : List Char) :
    layerMark.isPrefixOf (char :: rest) = false := by
  have differs : ('/' == char) = false := beq_eq_false_iff_ne.mpr other.symm
  rw [layerMark, List.isPrefixOf, differs, Bool.false_and]

section Plain

variable {before : List Char} (plain : '/' ∉ before) {char : Char} (other : char ≠ '/')
  (after : List Char)

include plain other

/-- No line of a layer begins where there is no slash. -/
theorem isPrefixOf_layerMark_append : layerMark.isPrefixOf (before ++ char :: after) = false := by
  cases before with
  | nil => exact isPrefixOf_layerMark_cons other after
  | cons first before => exact isPrefixOf_layerMark_cons (List.ne_of_not_mem_cons plain).symm _

theorem deleteLayerLines_append : deleteLayerLines false (before ++ char :: after) =
    before ++ deleteLayerLines false (char :: after) := by
  induction before with
  | nil => rfl
  | cons first before ih =>
      have others := List.not_mem_of_not_mem_cons plain
      rw [List.cons_append, deleteLayerLines, isPrefixOf_layerMark_append others other,
        Bool.and_false, if_neg Bool.false_ne_true, ih others, List.cons_append]

theorem withoutLayerLines_append : withoutLayerLines (before ++ char :: after) =
    before ++ deleteLayerLines false (char :: after) := by
  rw [withoutLayerLines, isPrefixOf_layerMark_append plain other,
    deleteLayerLines_append plain other]

end Plain

/-- Where no comment names a layer there is nothing to delete. -/
theorem withoutLayerLines_of_unmarked {code : List Char} (unmarked : ¬layerMark <:+: code) :
    withoutLayerLines code = code := by
  have begins {rest : List Char} (within : rest <:+: code) : layerMark.isPrefixOf rest = false :=
    Bool.eq_false_iff.mpr fun marked =>
      unmarked ((List.isPrefixOf_iff_prefix.mp marked).isInfix.trans within)
  have kept : ∀ {rest : List Char}, rest <:+: code → deleteLayerLines false rest = rest := by
    intro rest
    induction rest with
    | nil => exact fun _ => rfl
    | cons char rest ih =>
        intro within
        have behind : rest <:+: code := (List.suffix_cons char rest).isInfix.trans within
        rw [deleteLayerLines, begins behind, Bool.and_false, if_neg Bool.false_ne_true, ih behind]
  rw [withoutLayerLines, begins (List.infix_refl code), kept (List.infix_refl code)]

/-! ### Reading calls -/

/-- In front of its first parenthesis one is inside the name of a call. -/
theorem Dart.Scanner.place_of_scan {text : List Char} (without : '(' ∉ text) :
    ∀ {scanner next : Scanner}, scanner = Scanner.first ∨ scanner = Scanner.named →
      scanner.scan text = some next → next = Scanner.first ∨ next = Scanner.named := by
  induction text with
  | nil =>
      intro scanner next place scanned
      cases scanned
      exact place
  | cons char text ih =>
      intro scanner next place scanned
      have other := List.ne_of_not_mem_cons without
      have rest := List.not_mem_of_not_mem_cons without
      obtain ⟨between, stepped, scanned⟩ := Option.bind_eq_some_iff.mp scanned
      refine ih rest ?_ scanned
      rcases place with same | same
      · subst same
        simp only [Scanner.step, Scanner.first] at stepped
        split at stepped
        · exact Or.inr (Option.some.inj stepped).symm
        · cases stepped
      · subst same
        simp only [Scanner.step, Scanner.named] at stepped
        split_ifs at stepped with word point parenthesis
        · exact Or.inr (Option.some.inj stepped).symm
        · exact Or.inl (Option.some.inj stepped).symm
        · exact absurd parenthesis.symm other

/-- What leads from the beginning of the arguments back to it is passed over. -/
theorem Dart.Scanner.scan_insert {before line : List Char} (without : '(' ∉ before)
    (reads : Scanner.opened.scan line = some Scanner.opened) (after : List Char) :
    Scanner.first.scan (before ++ '(' :: (line ++ after)) = Scanner.first.scan (before ++ '(' :: after) := by
  rw [Scanner.scan_append, Scanner.scan_append]
  cases scanned : Scanner.first.scan before with
  | none => rfl
  | some place =>
      rcases Scanner.place_of_scan without (Or.inl rfl) scanned with same | same
      · subst same
        rfl
      · subst same
        change Scanner.opened.scan (line ++ after) = Scanner.opened.scan after
        rw [Scanner.scan_append, reads]
        rfl

theorem Dart.Scanner.scan_commentLine (text : List Char)
    (oneLine : ∀ char ∈ text, isLineEnd char = false) :
    Scanner.opened.scan ('\n' :: '/' :: '/' :: (text ++ ['\n'])) = some Scanner.opened := by
  have inside : ∀ char ∈ text, (!isLineEnd char) = true := by
    intro char member
    rw [oneLine char member]
    rfl
  have comment := scan_comment inside false false [] false
  change (⟨.comment, false, false, [], false⟩ : Scanner).scan (text ++ ['\n']) = _
  rw [Scanner.scan_append, comment]
  rfl

/-! ### The comment of a layer -/

variable {α : Type}

/-- What a comment shows of the name of a layer. -/
def LayerInfo.shownName (layer : LayerInfo α) : String :=
  Text.shorten (Text.trim layer.name) commentLength

/-- The comment of a layer, without the end of its line. -/
def LayerInfo.layerLine (layer : LayerInfo α) : String :=
  "// Layer: '" ++ layer.shownName ++ "' (" ++ layer.kind.label ++ ")"

namespace LayerInfo

variable (layer : LayerInfo α)

theorem isOneLine_label : IsOneLine layer.kind.label := by
  cases layer.kind
  all_goals
    simp only [LayerKind.label]
    exact of_decide_eq_true rfl

theorem layerMark_isPrefix : layerMark <+: layer.layerLine.toList := by
  have begins : "// Layer: '".toList = layerMark ++ [' ', '\''] := rfl
  simp only [layerLine, String.toList_append, begins, List.append_assoc]
  exact List.prefix_append _ _

/-- A line end in the name is one in the comment, and there are no others. -/
theorem countP_layerLine :
    layer.layerLine.toList.countP isLineEnd = layer.shownName.toList.countP isLineEnd := by
  have label : layer.kind.label.toList.countP isLineEnd = 0 :=
    List.countP_eq_zero.mpr fun char member => by simpa using layer.isOneLine_label char member
  have front : "// Layer: '".toList.countP isLineEnd = 0 := by decide
  have middle : "' (".toList.countP isLineEnd = 0 := by decide
  have back : ")".toList.countP isLineEnd = 0 := by decide
  simp only [layerLine, String.toList_append, List.countP_append, label, front, middle, back]
  omega

theorem isOneLine_shownName_iff :
    IsOneLine layer.shownName ↔ layer.shownName.toList.countP isLineEnd = 0 := by
  rw [List.countP_eq_zero]
  exact forall₂_congr fun char _ => by simp

theorem oneLine_layerLine (oneLine : IsOneLine layer.shownName) :
    ∀ char ∈ layer.layerLine.toList, isLineEnd char = false := by
  have none := layer.countP_layerLine.trans (layer.isOneLine_shownName_iff.mp oneLine)
  exact fun char member => Bool.eq_false_iff.mpr (List.countP_eq_zero.mp none char member)

/-- Whoever reads the arguments of a call passes over the comment. -/
theorem scan_layerLine (oneLine : IsOneLine layer.shownName) :
    Scanner.opened.scan ('\n' :: (layer.layerLine.toList ++ ['\n'])) = some Scanner.opened := by
  obtain ⟨rest, same⟩ := layer.layerMark_isPrefix
  rw [← same]
  refine Scanner.scan_commentLine (layerMark.drop 2 ++ rest) fun char member => ?_
  refine layer.oneLine_layerLine oneLine char ?_
  rw [← same]
  exact List.mem_cons_of_mem _ (List.mem_cons_of_mem _ member)

end LayerInfo

/-- The text of a comment stands behind the first parenthesis. -/
theorem toList_layerComment {code : String} {before after : List Char}
    (cut : code.toList = before ++ '(' :: after) (without : '(' ∉ before) (layer : LayerInfo α) :
    (layerComment code layer).toList =
      before ++ '(' :: '\n' :: (layer.layerLine.toList ++ '\n' :: after) := by
  have found : Text.cutAround? ['('] code.toList = some (before, after) := by
    rw [cut]
    exact Text.cutAround?_singleton after without
  unfold layerComment
  dsimp only
  rw [found]
  simp [LayerInfo.layerLine, LayerInfo.shownName]

/-- A comment of one line adds nothing to a call. -/
theorem scan_layerComment {code : String} {before after : List Char}
    (cut : code.toList = before ++ '(' :: after) (without : '(' ∉ before) {layer : LayerInfo α}
    (oneLine : IsOneLine layer.shownName) :
    Scanner.first.scan (layerComment code layer).toList = Scanner.first.scan code.toList := by
  have inserted := Scanner.scan_insert without (layer.scan_layerLine oneLine) after
  rw [toList_layerComment cut without, cut, ← inserted, List.cons_append, List.append_assoc]
  rfl

/-! ### Inert comments -/

/-- Code and the same code with something added, which is no more than a comment. -/
structure IsInert (code result : List Char) : Prop where
  /-- What is added is one line, which names a layer, and the line breaks around it. -/
  addsLine : ∃ before line after, code = before ++ after ∧
    result = before ++ '\n' :: (line ++ '\n' :: after) ∧ layerMark <+: line ∧
    ∀ char ∈ line, isLineEnd char = false
  /-- The lines that name layers can be deleted again. -/
  removable : withoutLayerLines result = withoutLayerLines code
  /-- Without other such lines that gives back the code. -/
  restores : ¬layerMark <:+: code → withoutLayerLines result = code
  /-- It adds nothing to the call that is read. -/
  reads : Scanner.first.scan result = Scanner.first.scan code

/-- No slash stands in front of the first parenthesis. -/
def OpensCall (code : String) : Prop :=
  code.toList.find? (fun char => char = '(' || char = '/') = some '('

instance (code : String) : Decidable (OpensCall code) :=
  inferInstanceAs (Decidable (_ = _))

theorem OpensCall.exists_cut {code : String} (opens : OpensCall code) :
    ∃ before after, code.toList = before ++ '(' :: after ∧ '(' ∉ before ∧ '/' ∉ before := by
  obtain ⟨-, before, after, cut, none⟩ := List.find?_eq_some_iff_append.mp opens
  have other {char : Char} (member : char ∈ before) : ¬(char = '(' ∨ char = '/') := by
    simpa using none char member
  exact ⟨before, after, cut, fun member => other member (Or.inl rfl),
    fun member => other member (Or.inr rfl)⟩

/-- A comment is inert exactly if what it shows of the name has no line end. -/
theorem isInert_layerComment_iff {code : String} (opens : OpensCall code) (layer : LayerInfo α) :
    IsInert code.toList (layerComment code layer).toList ↔ IsOneLine layer.shownName := by
  obtain ⟨before, after, cut, without, plain⟩ := opens.exists_cut
  have written := toList_layerComment cut without layer
  constructor
  · intro inert
    obtain ⟨front, line, back, split, added, -, oneLine⟩ := inert.addsLine
    -- One line adds two line ends, and so many more stand in the name.
    have ends : line.countP isLineEnd = 0 :=
      List.countP_eq_zero.mpr fun char member => by simp [oneLine char member]
    have counts := congrArg (List.countP isLineEnd) (written.symm.trans added)
    have same := congrArg (List.countP isLineEnd) (cut.symm.trans split)
    have newline : isLineEnd '\n' = true := rfl
    rw [LayerInfo.isOneLine_shownName_iff, ← LayerInfo.countP_layerLine]
    simp only [List.countP_append, List.countP_cons, newline, if_true] at counts same
    omega
  · intro oneLine
    have line := layer.oneLine_layerLine oneLine
    have removed : withoutLayerLines (layerComment code layer).toList =
        before ++ '(' :: deleteLayerLines false after := by
      have marked : layerMark.isPrefixOf (layer.layerLine.toList ++ '\n' :: after) = true :=
        List.isPrefixOf_iff_prefix.mpr (layer.layerMark_isPrefix.trans (List.prefix_append _ _))
      have newline : isLineEnd '\n' = true := rfl
      have parenthesis : isLineEnd '(' = false := rfl
      rw [written, withoutLayerLines_append plain (by decide), deleteLayerLines, parenthesis,
        Bool.false_and, if_neg Bool.false_ne_true, deleteLayerLines, marked, newline, Bool.and_true,
        if_pos rfl, deleteLayerLines_line line]
    have bare : withoutLayerLines code.toList = before ++ '(' :: deleteLayerLines false after := by
      have parenthesis : isLineEnd '(' = false := rfl
      rw [cut, withoutLayerLines_append plain (by decide), deleteLayerLines, parenthesis,
        Bool.false_and, if_neg Bool.false_ne_true]
    constructor
    case addsLine =>
      refine ⟨before ++ ['('], layer.layerLine.toList, after, ?_, ?_, layer.layerMark_isPrefix, line⟩
      · rw [cut, List.append_assoc]
        rfl
      · rw [written, List.append_assoc]
        rfl
    case removable => exact removed.trans bare.symm
    case restores =>
      exact fun unmarked => (removed.trans bare.symm).trans (withoutLayerLines_of_unmarked unmarked)
    case reads => exact scan_layerComment cut without oneLine

end DesignExport
