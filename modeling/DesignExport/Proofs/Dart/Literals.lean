import DesignExport.Proofs.Dart.Values
import DesignExport.Text.Search
import Mathlib.Data.Set.Function
import Mathlib.Tactic.SplitIfs
set_option autoImplicit false

/-! Reading literals of generated code back. A literal stands for its text without the
carriage returns, whatever the text is and whatever stands behind the literal.

A written literal has a body of the grammar of single-quoted literals, so it ends at its own
closing quote and means the text that it was written for. A text that is put between quotes as
it is does so exactly if all of its characters mean themselves. -/

namespace DesignExport.Dart

/-- What a character stands for behind a backslash. Escapes by number are not read. -/
def escaped? (char : Char) : Option Char :=
  if char = 'n' then some '\n'
  else if char = 'r' then some '\r'
  else if char = 't' then some '\t'
  else if char = 'b' then some '\x08'
  else if char = 'f' then some '\x0c'
  else if char = 'v' then some '\x0b'
  else if char = 'x' || char = 'u' then none
  else some char

/-- The text of a literal up to its closing quote, and what follows the quote. A literal
ends on its line, and a dollar sign of its own would be an interpolation. -/
def readQuoted? : List Char → Option (List Char × List Char)
  | [] => none
  | '\'' :: rest => some ([], rest)
  | '\\' :: char :: rest => do
      let meant ← escaped? char
      let (text, after) ← readQuoted? rest
      pure (meant :: text, after)
  | char :: rest =>
      if char = '\\' || char = '$' || char = '\n' || char = '\r' then none
      else do
        let (text, after) ← readQuoted? rest
        pure (char :: text, after)

/-- Reads a single-quoted literal at the start of a text. -/
def readLiteral? : List Char → Option (List Char × List Char)
  | '\'' :: rest => readQuoted? rest
  | _ => none

/-- What a literal keeps of a text. -/
def kept (text : List Char) : List Char :=
  text.filter (· ≠ '\r')

theorem kept_append (front back : List Char) : kept (front ++ back) = kept front ++ kept back :=
  List.filter_append ..

theorem kept_eq_nil_iff {text : List Char} : kept text = [] ↔ ∀ char ∈ text, char = '\r' := by
  simp [kept, List.filter_eq_nil_iff]

/-- An escaped character is read as itself, and a carriage return as nothing. -/
theorem readQuoted?_escape (char : Char) {text rest after : List Char}
    (read : readQuoted? rest = some (text, after)) :
    readQuoted? (escape char ++ rest) = some (kept [char] ++ text, after) := by
  by_cases returns : char = '\r'
  · subst returns
    exact read
  · unfold escape
    split_ifs with backslash _ dollar newline tab
    case neg => simp [readQuoted?, read, backslash, dollar, newline, returns, kept]
    all_goals
      subst char
      simp [readQuoted?, escaped?, read, kept]

theorem readQuoted?_flatMap_escape (text rest : List Char) :
    readQuoted? (text.flatMap escape ++ '\'' :: rest) = some (kept text, rest) := by
  induction text with
  | nil => rfl
  | cons char text ih =>
      rw [List.flatMap_cons, List.append_assoc, readQuoted?_escape char ih, ← kept_append]
      rfl

/-- Writing a text as a literal loses the carriage returns and nothing else. -/
theorem readLiteral?_stringLiteral (text : String) (rest : List Char) :
    readLiteral? ((stringLiteral text).toList ++ rest) = some (kept text.toList, rest) := by
  have opened : (stringLiteral text).toList ++ rest =
      '\'' :: (text.toList.flatMap escape ++ '\'' :: rest) := by
    simp [stringLiteral]
  rw [opened, readLiteral?]
  exact readQuoted?_flatMap_escape text.toList rest

/-! ### The grammar of literals -/

/-- The body of a single-quoted literal, with the text that it stands for. Outside of escapes
it has no quote, no backslash, no dollar sign and no line end: nothing in it closes the
literal, begins an interpolation or leaves the line. -/
inductive LiteralBody : List Char → List Char → Prop where
  | empty : LiteralBody [] []
  | plain {char : Char} {body text : List Char} (quotable : isQuotableChar char = true)
      (rest : LiteralBody body text) : LiteralBody (char :: body) (char :: text)
  | escaped {char meant : Char} {body text : List Char} (inLine : isLineEnd char = false)
      (known : escaped? char = some meant) (rest : LiteralBody body text) :
      LiteralBody ('\\' :: char :: body) (meant :: text)

/-- Three quotes in a row open a literal of several lines, which has another grammar. -/
def opensBlock (text : List Char) : Bool :=
  (Text.afterStart? ['\'', '\'', '\''] text).isSome

theorem readQuoted?_cons_of_isQuotableChar {char : Char} (quotable : isQuotableChar char = true)
    (rest : List Char) : readQuoted? (char :: rest) =
      (readQuoted? rest).map fun read => (char :: read.1, read.2) := by
  simp only [isQuotableChar, Bool.and_eq_true, decide_eq_true_eq, Bool.not_eq_true',
    isLineEnd, Bool.or_eq_false_iff, decide_eq_false_iff_not] at quotable
  obtain ⟨⟨⟨quote, backslash⟩, dollar⟩, newline, returns⟩ := quotable
  rw [readQuoted?]
  · simp only [backslash, dollar, newline, returns, decide_false, Bool.or_self, Bool.false_eq_true,
      if_false]
    cases readQuoted? rest <;> rfl
  · exact quote
  · exact fun _ _ same => absurd same backslash

namespace LiteralBody

variable {body text : List Char}

/-- A literal is read up to its closing quote. -/
theorem readQuoted?_eq (isBody : LiteralBody body text) (after : List Char) :
    readQuoted? (body ++ '\'' :: after) = some (text, after) := by
  induction isBody with
  | empty => rfl
  | plain quotable _ ih =>
      rw [List.cons_append, readQuoted?_cons_of_isQuotableChar quotable, ih]
      rfl
  | escaped _ known _ ih =>
      rw [List.cons_append, List.cons_append, readQuoted?, known, ih]
      rfl

theorem oneLine (isBody : LiteralBody body text) : ∀ char ∈ body, isLineEnd char = false := by
  induction isBody with
  | empty => exact fun _ absent => absurd absent List.not_mem_nil
  | plain quotable _ ih =>
      rw [isQuotableChar, Bool.and_eq_true] at quotable
      exact List.forall_mem_cons.mpr ⟨by simpa using quotable.2, ih⟩
  | escaped inLine _ _ ih =>
      exact List.forall_mem_cons.mpr ⟨rfl, List.forall_mem_cons.mpr ⟨inLine, ih⟩⟩

/-- Only an empty literal can be taken for the beginning of one of several lines. -/
theorem opensBlock_iff (isBody : LiteralBody body text) (after : List Char) :
    opensBlock ('\'' :: (body ++ '\'' :: after)) = true ↔ text = [] ∧ after.head? = some '\'' := by
  cases isBody with
  | empty =>
      cases after with
      | nil => simp [opensBlock, Text.afterStart?]
      | cons first after =>
          by_cases same : first = '\''
          · simp [opensBlock, Text.afterStart?, same]
          · simp [opensBlock, Text.afterStart?, same, Ne.symm same]
  | @plain char body text quotable _ =>
      have differs : '\'' ≠ char := by
        rintro rfl
        cases quotable
      simp [opensBlock, Text.afterStart?, differs]
  | escaped => simp [opensBlock, Text.afterStart?]

end LiteralBody

/-- Every character is written as a body of its own. -/
theorem literalBody_escape_append (char : Char) {body text : List Char}
    (isBody : LiteralBody body text) : LiteralBody (escape char ++ body) (kept [char] ++ text) := by
  by_cases returns : char = '\r'
  · subst returns
    exact isBody
  · have whole : kept [char] = [char] := by simp [kept, returns]
    rw [whole]
    unfold escape
    split_ifs with backslash quote dollar newline tab
    case neg =>
      refine LiteralBody.plain ?_ isBody
      simp [isQuotableChar, isLineEnd, backslash, quote, dollar, newline, returns]
    all_goals
      subst char
      exact LiteralBody.escaped rfl rfl isBody

theorem literalBody_flatMap_escape (text : List Char) :
    LiteralBody (text.flatMap escape) (kept text) := by
  induction text with
  | nil => exact LiteralBody.empty
  | cons char text ih =>
      have isBody := literalBody_escape_append char ih
      rwa [← kept_append] at isBody

theorem toList_stringLiteral (text : String) :
    (stringLiteral text).toList = '\'' :: (text.toList.flatMap escape ++ ['\'']) := by
  simp [stringLiteral]

theorem kept_of_not_mem {text : List Char} (without : '\r' ∉ text) : kept text = text :=
  List.filter_eq_self.mpr fun _ member => decide_eq_true fun same => without (same ▸ member)

/-- A written literal has a body of the grammar and stays on its line. It is read to its end
and no further, and gives back the text without carriage returns, whatever stands behind it;
only behind an empty literal a further quote would open a literal of several lines. Texts
without carriage returns have different literals. -/
theorem stringLiteral_roundTrip (text : String) (after : List Char) :
    (∃ body, (stringLiteral text).toList = '\'' :: (body ++ ['\'']) ∧
      LiteralBody body (kept text.toList) ∧ ∀ char ∈ body, isLineEnd char = false) ∧
    readLiteral? ((stringLiteral text).toList ++ after) = some (kept text.toList, after) ∧
    (opensBlock ((stringLiteral text).toList ++ after) = true ↔
      kept text.toList = [] ∧ after.head? = some '\'') ∧
    Set.InjOn stringLiteral {other | '\r' ∉ other.toList} := by
  have isBody := literalBody_flatMap_escape text.toList
  have opened : (stringLiteral text).toList ++ after =
      '\'' :: (text.toList.flatMap escape ++ '\'' :: after) := by
    rw [toList_stringLiteral]
    simp
  refine ⟨⟨_, toList_stringLiteral text, isBody, isBody.oneLine⟩, ?_, ?_, ?_⟩
  · rw [opened, readLiteral?]
    exact isBody.readQuoted?_eq after
  · rw [opened]
    exact isBody.opensBlock_iff after
  · intro first withoutFirst second withoutSecond same
    have read := readLiteral?_stringLiteral first []
    rw [same, readLiteral?_stringLiteral, kept_of_not_mem withoutFirst,
      kept_of_not_mem withoutSecond] at read
    exact String.toList_inj.mp (Prod.mk.inj (Option.some.inj read)).1.symm

example : readLiteral? "'it\\'s \\$5\\n' + x".toList = some ("it's $5\n".toList, " + x".toList) := by
  decide

/-! ### Texts between quotes -/

/-- A text between quotes, as it is. -/
def quoted (text : String) : String :=
  "'" ++ text ++ "'"

/-- A piece of code is one literal of a text, whatever stands behind it. -/
def IsLiteralOf (code text : String) : Prop :=
  ∀ after, readLiteral? (code.toList ++ after) = some (text.toList, after)

theorem literalBody_self {text : List Char} (quotable : ∀ char ∈ text, isQuotableChar char = true) :
    LiteralBody text text := by
  induction text with
  | nil => exact LiteralBody.empty
  | cons char text ih =>
      obtain ⟨first, others⟩ := List.forall_mem_cons.mp quotable
      exact LiteralBody.plain first (ih others)

/-- A literal is longer than its text, and an escape makes it longer still. -/
theorem length_lt_of_readQuoted? : ∀ {source text after : List Char},
    readQuoted? source = some (text, after) → text.length + after.length < source.length := by
  intro source
  induction source using readQuoted?.induct with
  | case1 => exact fun read => nomatch read
  | case2 rest =>
      intro text after read
      cases read
      simp
  | case3 char rest ih =>
      intro text after read
      obtain ⟨meant, _, read⟩ := Option.bind_eq_some_iff.mp read
      obtain ⟨⟨others, behind⟩, inner, same⟩ := Option.bind_eq_some_iff.mp read
      cases same
      have shorter := ih inner
      simp only [List.length_cons]
      omega
  | case4 char rest notQuote notEscape ends =>
      intro text after read
      rw [readQuoted?, if_pos ends] at read
      · cases read
      · exact notQuote
      · exact notEscape
  | case5 char rest notQuote notEscape goesOn ih =>
      intro text after read
      rw [readQuoted?, if_neg goesOn] at read
      · obtain ⟨⟨others, behind⟩, inner, same⟩ := Option.bind_eq_some_iff.mp read
        cases same
        have shorter := ih inner
        simp only [List.length_cons]
        omega
      · exact notQuote
      · exact notEscape

/-- A body that is read as itself has no escape, since an escape is longer than what it
means. -/
theorem isQuotableChar_of_readQuoted?_self {text : List Char}
    (read : readQuoted? (text ++ ['\'']) = some (text, [])) :
    ∀ char ∈ text, isQuotableChar char = true := by
  induction text with
  | nil => exact fun _ absent => absurd absent List.not_mem_nil
  | cons char text ih =>
      rw [List.cons_append] at read
      by_cases quotable : isQuotableChar char = true
      · rw [readQuoted?_cons_of_isQuotableChar quotable] at read
        obtain ⟨⟨others, behind⟩, inner, same⟩ := Option.map_eq_some_iff.mp read
        cases same
        exact List.forall_mem_cons.mpr ⟨quotable, ih inner⟩
      · exfalso
        by_cases quote : char = '\''
        · subst quote
          cases read
        by_cases backslash : char = '\\'
        · subst backslash
          obtain ⟨second, rest, behind⟩ : ∃ second rest, text ++ ['\''] = second :: rest :=
            List.exists_cons_of_ne_nil (by simp)
          rw [behind] at read
          obtain ⟨meant, _, read⟩ := Option.bind_eq_some_iff.mp read
          obtain ⟨⟨others, after⟩, inner, same⟩ := Option.bind_eq_some_iff.mp read
          cases same
          have shorter := length_lt_of_readQuoted? inner
          have lengths := congrArg List.length behind
          simp only [List.length_append, List.length_cons, List.length_nil] at lengths shorter
          omega
        · rw [readQuoted?, if_pos] at read
          · cases read
          · simpa [isQuotableChar, isLineEnd, quote, backslash, or_assoc, imp_iff_not_or]
              using quotable
          · exact quote
          · exact fun _ _ same => absurd same backslash

/-- A text that is put between quotes as it is reads as itself exactly if all of its
characters stand for themselves. -/
theorem isLiteralOf_quoted_iff (text : String) :
    IsLiteralOf (quoted text) text ↔ IsQuotable text := by
  have opened : ∀ after, (quoted text).toList ++ after =
      '\'' :: (text.toList ++ '\'' :: after) := by
    intro after
    simp [quoted]
  constructor
  · intro isLiteral
    have read := isLiteral []
    rw [opened, readLiteral?] at read
    exact isQuotableChar_of_readQuoted?_self read
  · intro quotable after
    rw [opened, readLiteral?]
    exact (literalBody_self quotable).readQuoted?_eq after

end DesignExport.Dart
