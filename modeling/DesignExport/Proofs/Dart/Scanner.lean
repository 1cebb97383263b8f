import DesignExport.Text.Words
import Mathlib.Tactic.SplitIfs
set_option autoImplicit false

/-! Reading generated code character by character. A call is a dotted name with one
list of arguments behind it. Literals and comments are passed over, brackets are
matched, and an argument that is named but has no value is noticed. -/

namespace DesignExport.Dart

/-- What a literal is put in. -/
inductive Quote where
  | single
  | double
deriving DecidableEq

def Quote.char : Quote → Char
  | .single => '\''
  | .double => '"'

/-- What the next character belongs to. -/
inductive Mode where
  /-- The start of a segment of the name in front of the arguments. -/
  | name
  | segment
  | code
  /-- The second slash of a comment. -/
  | slash
  | comment
  | literal (quote : Quote)
  | escape (quote : Quote)
  /-- Nothing; the list of arguments is closed. -/
  | closed
deriving DecidableEq

structure Scanner where
  mode : Mode
  /-- Directly behind a word or a literal. A quote there would make a raw literal
  or join two literals. -/
  isGlued : Bool
  /-- Behind a colon, with no value yet. -/
  isPending : Bool
  /-- The brackets that have to be closed before the list of arguments is. -/
  awaited : List Char
  /-- Some named argument so far has no value. -/
  lacksValue : Bool
deriving DecidableEq

def isWordChar (char : Char) : Bool :=
  char.isAlphanum || char = '_'

def isLineEnd (char : Char) : Bool :=
  char = '\n' || char = '\r'

def isSpace (char : Char) : Bool :=
  char = ' ' || char = '\t' || isLineEnd char

/-- What a character is in code outside of literals and comments. -/
inductive Sign where
  | word
  | space
  | comma
  | colon
  | slash
  | quote (quote : Quote)
  | closing
  /-- Opens what another character closes. -/
  | opening (closer : Char)
  | other
deriving DecidableEq

def signOf (char : Char) : Sign :=
  if isWordChar char then .word
  else if isSpace char then .space
  else if char = ',' then .comma
  else if char = ':' then .colon
  else if char = '/' then .slash
  else if char = '\'' then .quote .single
  else if char = '"' then .quote .double
  else if char = ')' || char = ']' || char = '}' then .closing
  else if char = '(' then .opening ')'
  else if char = '[' then .opening ']'
  else if char = '{' then .opening '}'
  else .other

namespace Scanner

/-- The end of an argument. -/
def ended (scanner : Scanner) : Scanner :=
  { scanner with
    isGlued := false, isPending := false, lacksValue := scanner.isPending || scanner.lacksValue }

/-- A bracket must be the one that is awaited. -/
def close (scanner : Scanner) (char : Char) : Option Scanner :=
  match scanner.awaited with
  | [] => if char = ')' then some { scanner.ended with mode := .closed } else none
  | closer :: rest => if char = closer then some { scanner.ended with awaited := rest } else none

def stepCode (scanner : Scanner) (char : Char) : Option Scanner :=
  match signOf char with
  | .word => some { scanner with isGlued := true, isPending := false }
  | .space => some { scanner with isGlued := false }
  | .comma => some scanner.ended
  | .colon => some { scanner with isGlued := false, isPending := true }
  | .slash => some { scanner with mode := .slash }
  | .quote quote =>
      if scanner.isGlued then none
      else some { scanner with mode := .literal quote, isPending := false }
  | .closing => scanner.close char
  | .opening closer =>
      some { scanner with
        isGlued := false, isPending := false, awaited := closer :: scanner.awaited }
  | .other => some { scanner with isGlued := false, isPending := false }

/-- A literal ends on its line and holds no interpolation. -/
def stepLiteral (scanner : Scanner) (quote : Quote) (char : Char) : Option Scanner :=
  if char = quote.char then some { scanner with mode := .code, isGlued := true }
  else if char = '\\' then some { scanner with mode := .escape quote }
  else if char = '$' || isLineEnd char then none
  else some scanner

def step (scanner : Scanner) (char : Char) : Option Scanner :=
  match scanner.mode with
  | .name => if char.isAlpha || char = '_' then some { scanner with mode := .segment } else none
  | .segment =>
      if isWordChar char then some scanner
      else if char = '.' then some { scanner with mode := .name }
      else if char = '(' then some { scanner with mode := .code }
      else none
  | .code => scanner.stepCode char
  | .slash => if char = '/' then some { scanner with mode := .comment } else none
  | .comment =>
      if isLineEnd char then some { scanner with mode := .code, isGlued := false } else some scanner
  | .literal quote => scanner.stepLiteral quote char
  | .escape quote => if isLineEnd char then none else some { scanner with mode := .literal quote }
  | .closed => none

/-- Reads a text. `none`: it cannot be read on from here. -/
def scan (scanner : Scanner) : List Char → Option Scanner
  | [] => some scanner
  | char :: text => (scanner.step char).bind (fun next => next.scan text)

/-- Nothing is read. -/
def first : Scanner :=
  ⟨.name, false, false, [], false⟩

/-- Where an argument or an item of a list can begin or has ended. -/
abbrev ready (awaited : List Char) (lacksValue : Bool) : Scanner :=
  ⟨.code, false, false, awaited, lacksValue⟩

/-- Behind the name of an argument. -/
abbrev wanting (awaited : List Char) (lacksValue : Bool) : Scanner :=
  ⟨.code, false, true, awaited, lacksValue⟩

/-- Behind the parenthesis that opens the arguments of a call. -/
def opened : Scanner :=
  ready [] false

/-- Behind the parenthesis that closes them. -/
def done (lacksValue : Bool) : Scanner :=
  ⟨.closed, false, false, [], lacksValue⟩

theorem scan_append (scanner : Scanner) (front back : List Char) :
    scanner.scan (front ++ back) = (scanner.scan front).bind (fun next => next.scan back) := by
  induction front generalizing scanner with
  | nil => rfl
  | cons char front ih =>
      rw [List.cons_append, scan, scan]
      cases scanner.step char with
      | none => rfl
      | some next => exact ih next

end Scanner

/-- A text leads from one place to another. -/
def Reads (text : String) (before after : Scanner) : Prop :=
  before.scan text.toList = some after

namespace Reads

variable {before between after : Scanner}

theorem append {front back : String} (start : Reads front before between)
    (rest : Reads back between after) : Reads (front ++ back) before after := by
  unfold Reads at *
  rw [String.toList_append, Scanner.scan_append, start]
  exact rest

theorem empty (scanner : Scanner) : Reads "" scanner scanner :=
  rfl

end Reads

/-- A call, read from its first character to its last. -/
def IsCall (code : String) (lacksValue : Bool) : Prop :=
  Reads code Scanner.first (Scanner.done lacksValue)

/-! ### The shape of a call -/

/-- A letter or an underscore, and letters, digits and underscores behind it. -/
def isName : List Char → Bool
  | [] => false
  | first :: rest => (first.isAlpha || first = '_') && rest.all isWordChar

/-- A dotted name and one list of arguments, which closes where the code ends. Inside
the list literals and comments end, and brackets match. -/
def IsExpression (code : String) : Prop :=
  ∃ (names : List (List Char)) (arguments : List Char) (last : Scanner),
    code.toList = Text.joinWith ['.'] names ++ '(' :: (arguments ++ [')']) ∧
    names ≠ [] ∧ (∀ name ∈ names, isName name = true) ∧
    Scanner.opened.scan arguments = some last ∧ last.mode = .code ∧ last.awaited = []

namespace Scanner

/-- Among arguments, or inside a literal or a comment there. -/
def isInside (scanner : Scanner) : Bool :=
  match scanner.mode with
  | .name | .segment | .closed => false
  | _ => true

/-- The same place in a call that is itself an argument. The call awaits its own
parenthesis before what is awaited around it. -/
def within (scanner : Scanner) (awaited : List Char) (lacksValue : Bool) : Scanner :=
  { scanner with
    awaited := scanner.awaited ++ ')' :: awaited
    lacksValue := lacksValue || scanner.lacksValue }

/-- Where the scanner is inside a call, a character is read as it is where that call
is an argument, unless it closes the call. -/
theorem step_within {scanner : Scanner} (inside : scanner.isInside = true) {char : Char}
    (stays : ¬(scanner.mode = .code ∧ scanner.awaited = [] ∧ signOf char = .closing))
    (awaited : List Char) (lacks : Bool) :
    (scanner.within awaited lacks).step char =
      (scanner.step char).map (fun next => next.within awaited lacks) := by
  obtain ⟨mode, glued, pending, open_, lacksBefore⟩ := scanner
  cases mode with
  | name | segment | closed => cases inside
  | slash | comment | escape =>
      simp only [step, within]
      split <;> rfl
  | literal quote =>
      simp only [step, stepLiteral, within]
      split_ifs <;> rfl
  | code =>
      simp only [step, within, stepCode]
      cases sign : signOf char with
      | word | space | colon | slash | opening | other => rfl
      | comma => simp only [ended, Option.map_some, Bool.or_left_comm]
      | quote => cases glued <;> rfl
      | closing =>
          cases open_ with
          | nil => exact absurd ⟨rfl, rfl, sign⟩ stays
          | cons closer rest =>
              simp only [close, ended, List.cons_append]
              split
              · simp only [Option.map_some, Bool.or_left_comm]
              · rfl

/-- From inside a call one stays inside, or the call is closed. -/
theorem isInside_of_step {scanner next : Scanner} {char : Char} (inside : scanner.isInside = true)
    (stepped : scanner.step char = some next) :
    next.isInside = true ∨
      (scanner.mode = .code ∧ scanner.awaited = [] ∧ char = ')' ∧
        next = done (scanner.isPending || scanner.lacksValue)) := by
  obtain ⟨mode, glued, pending, open_, lacksBefore⟩ := scanner
  cases mode with
  | name | segment | closed => cases inside
  | slash | comment | escape =>
      simp only [step] at stepped
      split at stepped
      all_goals
        cases stepped
        try exact Or.inl rfl
  | literal quote =>
      simp only [step, stepLiteral] at stepped
      split_ifs at stepped
      all_goals
        cases stepped
        exact Or.inl rfl
  | code =>
      simp only [step, stepCode] at stepped
      cases sign : signOf char with
      | word | space | comma | colon | slash | opening | other =>
          rw [sign] at stepped
          cases stepped
          exact Or.inl rfl
      | quote =>
          rw [sign] at stepped
          cases glued <;> cases stepped
          exact Or.inl rfl
      | closing =>
          rw [sign] at stepped
          cases open_ with
          | nil =>
              simp only [close] at stepped
              split at stepped
              case isTrue same =>
                cases stepped
                exact Or.inr ⟨rfl, rfl, same, rfl⟩
              case isFalse => cases stepped
          | cons closer rest =>
              simp only [close] at stepped
              split at stepped
              all_goals
                cases stepped
                try exact Or.inl rfl

/-- What closes a call leads behind it where the call is an argument. -/
theorem scan_within {text : List Char} {lacks : Bool} (around : List Char) (before : Bool) :
    ∀ {scanner : Scanner}, scanner.isInside = true → scanner.scan text = some (done lacks) →
      (scanner.within around before).scan text = some (ready around (before || lacks)) := by
  induction text with
  | nil =>
      intro scanner inside scanned
      cases scanned
      cases inside
  | cons char text ih =>
      intro scanner inside scanned
      obtain ⟨next, stepped, rest⟩ := Option.bind_eq_some_iff.mp scanned
      rw [scan]
      rcases isInside_of_step inside stepped with stays | ⟨code, alone, closes, finished⟩
      · have same : (scanner.within around before).step char =
            some (next.within around before) := by
          rw [step_within inside ?_ around before, stepped]
          · rfl
          · rintro ⟨code, alone, closing⟩
            rw [step, code] at stepped
            simp only [stepCode, closing, close, alone] at stepped
            split at stepped
            all_goals
              cases stepped
              try cases stays
        rw [same]
        exact ih stays rest
      · subst finished closes
        cases text with
        | cons => cases rest
        | nil =>
            cases rest
            obtain ⟨mode, glued, pending, open_, lacksBefore⟩ := scanner
            subst code alone
            change some _ = some _
            simp only [ready, within, ended, Bool.or_left_comm]

/-- The last parenthesis of a call closes its arguments. -/
theorem last_of_scan {text : List Char} {lacks : Bool} :
    ∀ {scanner : Scanner}, scanner.isInside = true → scanner.scan text = some (done lacks) →
      ∃ (arguments : List Char) (last : Scanner), text = arguments ++ [')'] ∧
        scanner.scan arguments = some last ∧ last.mode = .code ∧ last.awaited = [] := by
  induction text with
  | nil =>
      intro scanner inside scanned
      cases scanned
      cases inside
  | cons char text ih =>
      intro scanner inside scanned
      obtain ⟨next, stepped, rest⟩ := Option.bind_eq_some_iff.mp scanned
      rcases isInside_of_step inside stepped with stays | ⟨code, alone, closes, finished⟩
      · obtain ⟨arguments, last, split, read, ends⟩ := ih stays rest
        refine ⟨char :: arguments, last, by rw [split]; rfl, ?_, ends⟩
        rw [scan, stepped]
        exact read
      · subst finished closes
        cases text with
        | cons => cases rest
        | nil => exact ⟨[], scanner, rfl, rfl, code, alone⟩

/-! ### The name in front of the arguments -/

/-- Inside a segment of the name. -/
def named : Scanner :=
  ⟨.segment, false, false, [], false⟩

theorem signOf_of_isWordChar {char : Char} (word : isWordChar char = true) :
    signOf char = .word := by
  rw [signOf, if_pos word]

theorem isWordChar_of_isAlpha {char : Char} (letter : (char.isAlpha || char = '_') = true) :
    isWordChar char = true := by
  rw [isWordChar, Char.isAlphanum]
  rcases Bool.or_eq_true_iff.mp letter with alpha | underscore
  · rw [alpha]
    rfl
  · rw [underscore, Bool.or_true]

/-- A call begins with a name, and its first parenthesis is behind the name. -/
theorem split_of_scan {text : List Char} {lacks : Bool} :
    ∀ {scanner : Scanner}, scanner = first ∨ scanner = named →
      scanner.scan text = some (done lacks) →
      ∃ head rest, text = head ++ '(' :: rest ∧ '(' ∉ head ∧ scanner.scan head = some named ∧
        opened.scan rest = some (done lacks) := by
  induction text with
  | nil =>
      rintro scanner (same | same) scanned
      all_goals
        subst same
        cases scanned
  | cons char text ih =>
      have longer {scanner next : Scanner} (stepped : scanner.step char = some next)
          (other : char ≠ '(') (place : next = first ∨ next = named)
          (rest : next.scan text = some (done lacks)) :
          ∃ head rest, char :: text = head ++ '(' :: rest ∧ '(' ∉ head ∧
            scanner.scan head = some named ∧ opened.scan rest = some (done lacks) := by
        obtain ⟨head, back, split, without, read, closes⟩ := ih place rest
        refine ⟨char :: head, back, by rw [split]; rfl, ?_, ?_, closes⟩
        · intro member
          rcases List.mem_cons.mp member with same | later
          · exact other same.symm
          · exact without later
        · rw [scan, stepped]
          exact read
      rintro scanner (same | same) scanned
      · obtain ⟨next, stepped, rest⟩ := Option.bind_eq_some_iff.mp scanned
        subst same
        have letter := stepped
        simp only [step, first] at letter
        split at letter
        case isTrue letterFirst =>
          cases letter
          refine longer stepped ?_ (Or.inr rfl) rest
          rintro rfl
          cases letterFirst
        case isFalse => cases letter
      · obtain ⟨next, stepped, rest⟩ := Option.bind_eq_some_iff.mp scanned
        subst same
        have moved := stepped
        simp only [step, named] at moved
        split_ifs at moved with word dot parenthesis
        · cases moved
          refine longer stepped ?_ (Or.inr rfl) rest
          rintro rfl
          cases word
        · cases moved
          refine longer stepped ?_ (Or.inl rfl) rest
          rintro rfl
          cases dot
        · cases moved
          exact ⟨[], text, by rw [parenthesis]; rfl, List.not_mem_nil, rfl, rest⟩

/-- What is read as a dotted name consists of names with points between them. -/
theorem names_of_scan (text : List Char) (without : '(' ∉ text) :
    (first.scan text = some named → ∃ names : List (List Char), names ≠ [] ∧
      (∀ name ∈ names, isName name = true) ∧ text = Text.joinWith ['.'] names) ∧
    (named.scan text = some named → ∃ (tail : List Char) (names : List (List Char)),
      tail.all isWordChar = true ∧ (∀ name ∈ names, isName name = true) ∧
        text = Text.joinWith ['.'] (tail :: names)) := by
  have joined (char : Char) (tail : List Char) (names : List (List Char)) :
      Text.joinWith ['.'] ((char :: tail) :: names) =
        char :: Text.joinWith ['.'] (tail :: names) := by
    cases names <;> rfl
  induction text with
  | nil =>
      constructor
      · intro scanned
        cases scanned
      · intro _
        exact ⟨[], [], rfl, fun name absent => absurd absent List.not_mem_nil, rfl⟩
  | cons char text ih =>
      obtain ⟨fromFirst, fromNamed⟩ := ih fun member => without (List.mem_cons_of_mem char member)
      constructor
      · intro scanned
        obtain ⟨next, stepped, rest⟩ := Option.bind_eq_some_iff.mp scanned
        simp only [step, first] at stepped
        split at stepped
        case isTrue letter =>
          cases stepped
          obtain ⟨tail, names, words, others, same⟩ := fromNamed rest
          refine ⟨(char :: tail) :: names, List.cons_ne_nil _ _, ?_, by rw [joined, same]⟩
          intro name member
          rcases List.mem_cons.mp member with here | later
          · rw [here, isName, letter, words]
            rfl
          · exact others name later
        case isFalse => cases stepped
      · intro scanned
        obtain ⟨next, stepped, rest⟩ := Option.bind_eq_some_iff.mp scanned
        simp only [step, named] at stepped
        split_ifs at stepped with word dot parenthesis
        · cases stepped
          obtain ⟨tail, names, words, others, same⟩ := fromNamed rest
          refine ⟨char :: tail, names, ?_, others, by rw [joined, same]⟩
          rw [List.all_cons, word, words]
          rfl
        · cases stepped
          obtain ⟨names, present, others, same⟩ := fromFirst rest
          refine ⟨[], names, rfl, others, ?_⟩
          cases names with
          | nil => exact absurd rfl present
          | cons => rw [dot, same]; rfl
        · exact absurd (parenthesis ▸ List.mem_cons_self) without

end Scanner

/-- A call has the shape of an expression. -/
theorem IsCall.isExpression {code : String} {lacks : Bool} (call : IsCall code lacks) :
    IsExpression code := by
  obtain ⟨head, rest, split, without, name, closes⟩ := Scanner.split_of_scan (Or.inl rfl) call
  obtain ⟨names, present, each, joined⟩ := (Scanner.names_of_scan head without).1 name
  obtain ⟨arguments, last, whole, read, code, alone⟩ := Scanner.last_of_scan rfl closes
  exact ⟨names, arguments, last, by rw [split, joined, whole], present, each, read, code, alone⟩

end DesignExport.Dart
