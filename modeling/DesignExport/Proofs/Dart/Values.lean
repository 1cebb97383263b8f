import DesignExport.Dart.Literal
import DesignExport.Proofs.Dart.Scanner
import DesignExport.Proofs.Text.Plain
set_option autoImplicit false

/-! What stands between the brackets of a call: values, lists of arguments, and the
code of a child, which may be missing. Each is read in the same way wherever it stands,
so that a call is put together from its pieces. -/

namespace DesignExport.Dart

open Scanner (ready wanting)
open DesignExport.Text (Every IsPlain isPlainChar)

/-- A complete value, as an item or behind the name of an argument. -/
def IsValue (text : String) : Prop :=
  ∃ glued : Bool, ∀ (pending : Bool) (awaited : List Char) (lacks : Bool),
    Reads text ⟨.code, false, pending, awaited, lacks⟩ ⟨.code, glued, false, awaited, lacks⟩

/-- Arguments, each with a comma behind it. -/
def IsArguments (text : String) : Prop :=
  ∀ (awaited : List Char) (lacks : Bool), Reads text (ready awaited lacks) (ready awaited lacks)

/-- Values or arguments with commas between them. -/
def IsList (text : String) : Prop :=
  ∃ glued : Bool, ∀ (awaited : List Char) (lacks : Bool),
    Reads text (ready awaited lacks) ⟨.code, glued, false, awaited, lacks⟩

/-- Calls as the items of a list; some of them may lack a value. -/
def AreItems (text : String) (lacksValue : Bool) : Prop :=
  ∀ (awaited : List Char) (lacks : Bool),
    Reads text (ready awaited lacks) (ready awaited (lacks || lacksValue))

/-- The code of a child behind the name of an argument. Without code the argument has
no value. -/
def IsSlot (code : String) (lacksValue : Bool) : Prop :=
  (code = "" ∧ lacksValue = true) ∨ IsCall code lacksValue

/-- A call is read as an argument of another one. -/
theorem IsCall.reads {code : String} {lacksValue : Bool} (call : IsCall code lacksValue)
    (glued pending : Bool) (awaited : List Char) (lacks : Bool) :
    Reads code ⟨.code, glued, pending, awaited, lacks⟩ (ready awaited (lacks || lacksValue)) := by
  have fromName (text : List Char) :
      (Scanner.first.scan text = some (Scanner.done lacksValue) →
        ∀ glued pending : Bool, Scanner.scan ⟨.code, glued, pending, awaited, lacks⟩ text =
          some (ready awaited (lacks || lacksValue))) ∧
      (Scanner.named.scan text = some (Scanner.done lacksValue) →
        ∀ glued pending : Bool, Scanner.scan ⟨.code, glued, pending, awaited, lacks⟩ text =
          some (ready awaited (lacks || lacksValue))) := by
    induction text with
    | nil =>
        constructor
        all_goals
          intro scanned
          cases scanned
    | cons char text ih =>
        obtain ⟨fromFirst, fromNamed⟩ := ih
        have word (isWord : isWordChar char = true)
            (rest : Scanner.named.scan text = some (Scanner.done lacksValue))
            (glued pending : Bool) :
            Scanner.scan ⟨.code, glued, pending, awaited, lacks⟩ (char :: text) =
              some (ready awaited (lacks || lacksValue)) := by
          rw [Scanner.scan, Scanner.step, Scanner.stepCode, Scanner.signOf_of_isWordChar isWord]
          exact fromNamed rest true false
        constructor
        · intro scanned
          obtain ⟨next, stepped, rest⟩ := Option.bind_eq_some_iff.mp scanned
          simp only [Scanner.step, Scanner.first] at stepped
          split at stepped
          case isTrue letter =>
            cases stepped
            exact word (Scanner.isWordChar_of_isAlpha letter) rest
          case isFalse => cases stepped
        · intro scanned glued pending
          obtain ⟨next, stepped, rest⟩ := Option.bind_eq_some_iff.mp scanned
          simp only [Scanner.step, Scanner.named] at stepped
          split_ifs at stepped with isWord dot parenthesis
          · cases stepped
            exact word isWord rest glued pending
          · cases stepped
            subst dot
            exact fromFirst rest false false
          · cases stepped
            subst parenthesis
            have opened : Scanner.opened.within awaited lacks = ready (')' :: awaited) lacks := by
              simp only [Scanner.opened, Scanner.within, Bool.or_false, List.nil_append]
            have closed := Scanner.scan_within awaited lacks (rfl : Scanner.opened.isInside = true) rest
            rw [opened] at closed
            exact closed
  exact (fromName code.toList).1 call glued pending

theorem IsCall.isValue {code : String} (call : IsCall code false) : IsValue code := by
  refine ⟨false, fun pending awaited lacks => ?_⟩
  have read := call.reads false pending awaited lacks
  rw [Bool.or_false] at read
  exact read

namespace Reads

variable {front middle code : String} {before : Scanner} {awaited : List Char}
  {pending lacks lacksValue : Bool}

/-- A value between two pieces of text. -/
theorem value (start : Reads front before ⟨.code, false, pending, awaited, lacks⟩)
    (isValue : IsValue middle) (back : String) (after : Scanner)
    (rest : ∀ glued, Reads back ⟨.code, glued, false, awaited, lacks⟩ after) :
    Reads (front ++ middle ++ back) before after := by
  obtain ⟨glued, read⟩ := isValue
  exact (start.append (read pending awaited lacks)).append (rest glued)

/-- Values with commas between them, between two pieces of text. -/
theorem list (start : Reads front before (ready awaited lacks)) (isList : IsList middle)
    (back : String) (after : Scanner)
    (rest : ∀ glued, Reads back ⟨.code, glued, false, awaited, lacks⟩ after) :
    Reads (front ++ middle ++ back) before after := by
  obtain ⟨glued, read⟩ := isList
  exact (start.append (read awaited lacks)).append (rest glued)

/-- Arguments between two pieces of text. -/
theorem arguments (start : Reads front before (ready awaited lacks))
    (isArguments : IsArguments middle) (back : String) (after : Scanner)
    (rest : Reads back (ready awaited lacks) after) : Reads (front ++ middle ++ back) before after :=
  (start.append (isArguments awaited lacks)).append rest

/-- Items between two pieces of text. -/
theorem items (start : Reads front before (ready awaited lacks))
    (areItems : AreItems middle lacksValue) (back : String) (after : Scanner)
    (rest : Reads back (ready awaited (lacks || lacksValue)) after) :
    Reads (front ++ middle ++ back) before after :=
  (start.append (areItems awaited lacks)).append rest

/-- The code of a child between two pieces of text. The comma behind it tells whether
the argument has a value. -/
theorem slot (start : Reads front before (wanting awaited lacks)) (isSlot : IsSlot code lacksValue)
    (back : String) (after : Scanner) (comma : back.toList.head? = some ',')
    (rest : Reads back (ready awaited (lacks || lacksValue)) after) :
    Reads (front ++ code ++ back) before after := by
  rcases isSlot with ⟨missing, flag⟩ | call
  · subst missing flag
    have behind : Reads back (wanting awaited lacks) after := by
      unfold Reads at *
      cases text : back.toList with
      | nil => rw [text] at comma; cases comma
      | cons char others =>
          rw [text] at comma rest
          cases comma
          rw [Bool.or_true] at rest
          exact rest
    exact (start.append (Reads.empty _)).append behind
  · exact (start.append (call.reads false true awaited lacks)).append rest

end Reads

/-! ### Arguments and lists -/

theorem IsValue.isList {text : String} (value : IsValue text) : IsList text := by
  obtain ⟨glued, read⟩ := value
  exact ⟨glued, fun awaited lacks => read false awaited lacks⟩

theorem isList_intercalate : ∀ {pieces : List String}, (∀ piece ∈ pieces, IsList piece) →
    IsList (String.intercalate ", " pieces)
  | [], _ => ⟨false, fun awaited lacks => Reads.empty (ready awaited lacks)⟩
  | [piece], each => by
      rw [String.intercalate_singleton]
      exact each piece (List.mem_singleton_self piece)
  | piece :: next :: rest, each => by
      obtain ⟨first, others⟩ := List.forall_mem_cons.mp each
      obtain ⟨glued, read⟩ := isList_intercalate others
      obtain ⟨gluedFirst, readFirst⟩ := first
      rw [String.intercalate_cons_cons]
      refine ⟨glued, fun awaited lacks => ?_⟩
      have comma : Reads ", " ⟨.code, gluedFirst, false, awaited, lacks⟩ (ready awaited lacks) := rfl
      exact ((readFirst awaited lacks).append comma).append (read awaited lacks)

theorem IsArguments.empty : IsArguments "" :=
  fun awaited lacks => Reads.empty (ready awaited lacks)

theorem IsArguments.append {front back : String} (first : IsArguments front)
    (second : IsArguments back) : IsArguments (front ++ back) :=
  fun awaited lacks => (first awaited lacks).append (second awaited lacks)

theorem AreItems.empty : AreItems "" false :=
  fun awaited lacks => by
    rw [Bool.or_false]
    exact Reads.empty (ready awaited lacks)

theorem AreItems.append {front back : String} {lacksFirst lacksSecond : Bool}
    (first : AreItems front lacksFirst) (second : AreItems back lacksSecond) :
    AreItems (front ++ back) (lacksFirst || lacksSecond) := by
  intro awaited lacks
  rw [← Bool.or_assoc]
  exact (first awaited lacks).append (second awaited (lacks || lacksFirst))

/-! ### Words -/

/-- Plain text that begins with something visible. -/
def IsWord (text : String) : Prop :=
  IsPlain text ∧ ∃ first ∈ text.toList.head?, first ≠ ' '

instance (text : String) : Decidable (IsWord text) :=
  @instDecidableAnd (IsPlain text) _ inferInstance (Option.decidableExistsMem text.toList.head?)

/-- A word may go on with any plain text, as a number does with its unit. -/
theorem IsWord.append {front back : String} (word : IsWord front) (plain : IsPlain back) :
    IsWord (front ++ back) := by
  obtain ⟨isPlain, first, begins, visible⟩ := word
  refine ⟨isPlain.append plain, first, ?_, visible⟩
  rw [String.toList_append, List.head?_append, begins]
  rfl

theorem signOf_of_isPlainChar {char : Char} (plain : isPlainChar char = true) :
    signOf char = .word ∨ signOf char = .other ∨ char = ' ' := by
  simp only [isPlainChar, Bool.or_eq_true, decide_eq_true_eq] at plain
  rcases plain with (((letter | point) | blank) | hyphen) | underscore
  · left
    rw [signOf, isWordChar, letter]
    rfl
  · right; left
    rw [point]
    rfl
  · right; right
    exact blank
  · right; left
    rw [hyphen]
    rfl
  · left
    rw [underscore]
    rfl

/-- Behind plain text nothing but the glue may have changed. -/
theorem scan_of_isPlain {text : List Char} (plain : ∀ char ∈ text, isPlainChar char = true) :
    ∀ glued : Bool, ∃ last : Bool, ∀ (awaited : List Char) (lacks : Bool),
      Scanner.scan ⟨.code, glued, false, awaited, lacks⟩ text =
        some ⟨.code, last, false, awaited, lacks⟩ := by
  induction text with
  | nil => exact fun glued => ⟨glued, fun _ _ => rfl⟩
  | cons char text ih =>
      intro glued
      obtain ⟨isPlain, others⟩ := List.forall_mem_cons.mp plain
      have stepped : ∃ next : Bool, ∀ (awaited : List Char) (lacks : Bool),
          Scanner.step ⟨.code, glued, false, awaited, lacks⟩ char =
            some ⟨.code, next, false, awaited, lacks⟩ := by
        rcases signOf_of_isPlainChar isPlain with sign | sign | blank
        · exact ⟨true, fun _ _ => by rw [Scanner.step, Scanner.stepCode, sign]⟩
        · exact ⟨false, fun _ _ => by rw [Scanner.step, Scanner.stepCode, sign]⟩
        · subst blank
          exact ⟨false, fun _ _ => rfl⟩
      obtain ⟨next, step⟩ := stepped
      obtain ⟨last, rest⟩ := ih others next
      refine ⟨last, fun awaited lacks => ?_⟩
      rw [Scanner.scan, step]
      exact rest awaited lacks

/-- A text behind a number that is part of the same value. -/
def IsWidthUnit (text : String) : Prop :=
  ∀ glued : Bool, ∃ last : Bool, ∀ (awaited : List Char) (lacks : Bool),
    Reads text ⟨.code, glued, false, awaited, lacks⟩ ⟨.code, last, false, awaited, lacks⟩

theorem isWidthUnit_of_isPlain {text : String} (plain : IsPlain text) : IsWidthUnit text :=
  scan_of_isPlain plain

theorem IsValue.append {value unit : String} (isValue : IsValue value) (isUnit : IsWidthUnit unit) :
    IsValue (value ++ unit) := by
  obtain ⟨glued, read⟩ := isValue
  obtain ⟨last, readUnit⟩ := isUnit glued
  exact ⟨last, fun pending awaited lacks => (read pending awaited lacks).append (readUnit awaited lacks)⟩

theorem IsWord.isValue {text : String} (word : IsWord text) : IsValue text := by
  obtain ⟨plain, first, begins, visible⟩ := word
  obtain ⟨rest, split⟩ := List.head?_eq_some_iff.mp begins
  rw [IsPlain, Every, split] at plain
  obtain ⟨firstPlain, restPlain⟩ := List.forall_mem_cons.mp plain
  have begun : ∃ glued : Bool, ∀ (pending : Bool) (awaited : List Char) (lacks : Bool),
      Scanner.step ⟨.code, false, pending, awaited, lacks⟩ first =
        some ⟨.code, glued, false, awaited, lacks⟩ := by
    rcases signOf_of_isPlainChar firstPlain with sign | sign | blank
    · exact ⟨true, fun _ _ _ => by rw [Scanner.step, Scanner.stepCode, sign]⟩
    · exact ⟨false, fun _ _ _ => by rw [Scanner.step, Scanner.stepCode, sign]⟩
    · exact absurd blank visible
  obtain ⟨glued, step⟩ := begun
  obtain ⟨last, read⟩ := scan_of_isPlain restPlain glued
  refine ⟨last, fun pending awaited lacks => ?_⟩
  rw [Reads, split, Scanner.scan, step]
  exact read awaited lacks

/-! ### Literals and comments -/

/-- An escaped character leaves the scanner inside the literal. -/
theorem scan_escape (char : Char) (glued : Bool) (awaited : List Char) (lacks : Bool) :
    Scanner.scan ⟨.literal .single, glued, false, awaited, lacks⟩ (escape char) =
      some ⟨.literal .single, glued, false, awaited, lacks⟩ := by
  unfold escape
  split_ifs with backslash quote dollar newline returns tab
  all_goals try rfl
  simp only [Scanner.scan, Scanner.step, Scanner.stepLiteral, Quote.char, quote, backslash, dollar,
    newline, returns, isLineEnd, decide_false, Bool.or_false, Bool.false_eq_true, if_false, Option.bind_some]

theorem scan_flatMap_escape (text : List Char) (glued : Bool) (awaited : List Char) (lacks : Bool) :
    Scanner.scan ⟨.literal .single, glued, false, awaited, lacks⟩ (text.flatMap escape) =
      some ⟨.literal .single, glued, false, awaited, lacks⟩ := by
  induction text with
  | nil => rfl
  | cons char text ih =>
      rw [List.flatMap_cons, Scanner.scan_append, scan_escape]
      exact ih

/-- Any text may stand in a literal. -/
theorem isValue_stringLiteral (text : String) : IsValue (stringLiteral text) := by
  refine ⟨true, fun pending awaited lacks => ?_⟩
  have escaped : Reads (String.ofList (text.toList.flatMap escape))
      ⟨.literal .single, false, false, awaited, lacks⟩ ⟨.literal .single, false, false, awaited, lacks⟩ := by
    rw [Reads, String.toList_ofList]
    exact scan_flatMap_escape text.toList false awaited lacks
  have opening : Reads "'" ⟨.code, false, pending, awaited, lacks⟩
      ⟨.literal .single, false, false, awaited, lacks⟩ := rfl
  have closing : Reads "'" ⟨.literal .single, false, false, awaited, lacks⟩
      ⟨.code, true, false, awaited, lacks⟩ := rfl
  exact (opening.append escaped).append closing

/-- Characters that a literal holds as they are. -/
def isQuotableChar (char : Char) : Bool :=
  char ≠ '\'' && char ≠ '\\' && char ≠ '$' && !isLineEnd char

abbrev IsQuotable (text : String) : Prop :=
  Every isQuotableChar text

theorem isQuotableChar_of_isPlainChar {char : Char} (plain : isPlainChar char = true) :
    isQuotableChar char = true :=
  Text.of_ascii (fun char => isPlainChar char = true → isQuotableChar char = true)
    (by decide) (Text.toNat_of_isPlainChar plain) plain

theorem isQuotable_of_isPlain {text : String} (plain : IsPlain text) : IsQuotable text :=
  plain.mono fun _ => isQuotableChar_of_isPlainChar

/-- Such a text stands in a literal as it is. -/
theorem scan_of_isQuotable {text : List Char} (quotable : ∀ char ∈ text, isQuotableChar char = true)
    (glued : Bool) (awaited : List Char) (lacks : Bool) :
    Scanner.scan ⟨.literal .single, glued, false, awaited, lacks⟩ text =
      some ⟨.literal .single, glued, false, awaited, lacks⟩ := by
  induction text with
  | nil => rfl
  | cons char text ih =>
      obtain ⟨first, others⟩ := List.forall_mem_cons.mp quotable
      have stays : Scanner.step ⟨.literal .single, glued, false, awaited, lacks⟩ char =
          some ⟨.literal .single, glued, false, awaited, lacks⟩ := by
        have differs (other : Char) (mark : isQuotableChar other = false) : char ≠ other := by
          rintro rfl
          rw [mark] at first
          cases first
        simp only [Scanner.step, Scanner.stepLiteral, Quote.char, differs '\'' rfl, differs '\\' rfl,
          differs '$' rfl, differs '\n' rfl, differs '\r' rfl, isLineEnd, decide_false,
          Bool.or_false, Bool.false_eq_true, if_false]
      rw [Scanner.scan, stays]
      exact ih others

/-- A text without line ends, which a comment can hold. -/
abbrev IsOneLine (text : String) : Prop :=
  Every (fun char => !isLineEnd char) text

theorem isOneLine_of_isQuotable {text : String} (quotable : IsQuotable text) : IsOneLine text :=
  quotable.mono fun _ allowed => (Bool.and_eq_true_iff.mp allowed).2

/-- A comment goes on to the end of its line. -/
theorem scan_comment {text : List Char} (oneLine : ∀ char ∈ text, (!isLineEnd char) = true)
    (glued pending : Bool) (awaited : List Char) (lacks : Bool) :
    Scanner.scan ⟨.comment, glued, pending, awaited, lacks⟩ text =
      some ⟨.comment, glued, pending, awaited, lacks⟩ := by
  induction text with
  | nil => rfl
  | cons char text ih =>
      obtain ⟨first, others⟩ := List.forall_mem_cons.mp oneLine
      rw [Bool.not_eq_true'] at first
      rw [Scanner.scan, Scanner.step]
      simp only [first, Bool.false_eq_true, if_false]
      exact ih others

end DesignExport.Dart
