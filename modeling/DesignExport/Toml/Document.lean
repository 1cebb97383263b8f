import DesignExport.Toml.Entry
import DesignExport.Toml.Moment
import DesignExport.Toml.Number
set_option autoImplicit false

/-! TOML texts. A text is a list of sections; each has the header of a table,
except for the first one, and assignments. Its tables are records whose members
stand in the order of the text; `settled?` makes a value of one. -/

namespace DesignExport.Toml

/-- Values nest less deeply, and keys have fewer parts. -/
def depthBound : Nat := 80

def isBareChar (char : Char) : Bool :=
  char.isAlphanum || char = '-' || char = '_'

/-- One part of a key. -/
def keyPart? (chars : List Char) : Option (String × List Char) :=
  match chars with
  | '"' :: rest => (basicText? rest).map (fun (text, last) => (String.ofList text, last))
  | '\'' :: rest => (literalText? rest).map (fun (text, last) => (String.ofList text, last))
  | _ =>
      let bare := chars.takeWhile isBareChar
      if bare.isEmpty then none else some (String.ofList bare, chars.dropWhile isBareChar)

/-- A key of at most as many parts as `most`. Blanks may surround the parts. -/
def key? : Nat → List Char → Option (Key × List Char)
  | 0, _ => none
  | most + 1, chars =>
      match keyPart? (skipSpace chars) with
      | none => none
      | some (part, rest) =>
          match skipSpace rest with
          | '.' :: others =>
              (key? most others).map (fun ((path, last), tail) => ((part :: path, last), tail))
          | tail => some (([], part), tail)

/-- A key in front of an equals sign, and the text behind the sign. -/
def assigned? (chars : List Char) : Option (Key × List Char) :=
  match key? (depthBound - 1) chars with
  | some (key, '=' :: rest) => some (key, skipSpace rest)
  | _ => none

/-- Passes over blanks, newlines and comments between the items of a list. -/
def skipBetween : Nat → List Char → List Char
  | 0, chars => chars
  | steps + 1, chars =>
      match skipSpace chars with
      | '#' :: rest => skipBetween steps (rest.dropWhile isPrintable)
      | other =>
          match newline? other with
          | some rest => skipBetween steps rest
          | none => other

def skipAllBetween (chars : List Char) : List Char :=
  skipBetween (chars.length + 1) chars

/-- The member that carries a moment. -/
def momentName : String := "$__toml_private_datetime"

def ofMoment (moment : Moment) : Json :=
  .record [(momentName, .text moment.write)]

/-- Values of one word, numbers and moments. -/
def plainValue? (chars : List Char) : Option (Json × List Char) :=
  match chars with
  | 't' :: 'r' :: 'u' :: 'e' :: rest => some (.flag true, rest)
  | 'f' :: 'a' :: 'l' :: 's' :: 'e' :: rest => some (.flag false, rest)
  | '"' :: _ | '\'' :: _ =>
      (quotedText? chars).map (fun (text, rest) => (.text (String.ofList text), rest))
  | _ =>
      match takeMoment? chars with
      | some (moment, rest) => some (ofMoment moment, rest)
      | none => (number? chars).map (fun (number, rest) => (.number number, rest))

mutual

/-- A value that nests at most as deeply as `depth`, read in a bounded number of
steps. -/
def value? : Nat → Nat → List Char → Option (Json × List Char)
  | 0, _, _ => none
  | steps + 1, depth, chars =>
      match chars, depth with
      | '[' :: _, 0 => none
      | '{' :: _, 0 => none
      | '[' :: rest, depth + 1 =>
          match skipAllBetween rest with
          | ']' :: last => some (.list [], last)
          | items => (items? steps depth items).map (fun (items, last) => (.list items, last))
      | '{' :: rest, depth + 1 =>
          match skipSpace rest with
          | '}' :: last => some (.record [], last)
          | members => do
              let (assignments, last) ← members? steps depth members
              let entries ← assignAll assignments []
              some (.record (entriesToJson entries), last)
      | _, _ => plainValue? chars

/-- The items of a list and its end. A comma may stand behind the last item. -/
def items? : Nat → Nat → List Char → Option (List Json × List Char)
  | 0, _, _ => none
  | steps + 1, depth, chars => do
      let (item, rest) ← value? steps depth chars
      match skipAllBetween rest with
      | ']' :: last => some ([item], last)
      | ',' :: rest =>
          match skipAllBetween rest with
          | ']' :: last => some ([item], last)
          | others => (items? steps depth others).map (fun (items, last) => (item :: items, last))
      | _ => none

/-- The members of a table in braces and its end. -/
def members? : Nat → Nat → List Char → Option (List Assignment × List Char)
  | 0, _, _ => none
  | steps + 1, depth, chars => do
      let (key, rest) ← assigned? chars
      let (value, rest) ← value? steps depth rest
      match skipSpace rest with
      | '}' :: last => some ([⟨key, value⟩], last)
      | ',' :: others =>
          (members? steps depth others).map (fun (members, last) => (⟨key, value⟩ :: members, last))
      | _ => none

end

inductive Header where
  | table (key : Key)
  | series (key : Key)

inductive Statement where
  | header (header : Header)
  | assignment (assignment : Assignment)

/-- A header in brackets or in double brackets. -/
def header? : List Char → Option (Header × List Char)
  | '[' :: '[' :: rest =>
      match key? (depthBound - 1) rest with
      | some (key, ']' :: ']' :: last) => some (.series key, last)
      | _ => none
  | '[' :: rest =>
      match key? (depthBound - 1) rest with
      | some (key, ']' :: last) => some (.table key, last)
      | _ => none
  | _ => none

/-- Steps that reading a value from a text takes at most: each character starts at
most one value and one list of values. -/
def stepsFor (chars : List Char) : Nat :=
  2 * chars.length + 2

def statement? (chars : List Char) : Option (Statement × List Char) :=
  match chars with
  | '[' :: _ => (header? chars).map (fun (header, rest) => (.header header, rest))
  | _ => do
      let (key, rest) ← assigned? chars
      let (value, rest) ← value? (stepsFor rest) (depthBound - 1) rest
      some (.assignment ⟨key, value⟩, rest)

/-- The statements of a text, each on a line of its own. -/
def statements? : Nat → List Char → Option (List Statement)
  | 0, _ => none
  | steps + 1, chars =>
      match skipSpace chars with
      | [] => some []
      | '#' :: rest => (endOfLine? ('#' :: rest)).bind (statements? steps)
      | other =>
          match newline? other with
          | some rest => statements? steps rest
          | none => do
              let (statement, rest) ← statement? other
              let others ← statements? steps (← endOfLine? rest)
              some (statement :: others)

structure Section where
  header : Header
  assignments : List Assignment

/-- The assignments in front of the first header, and the sections. -/
def sections : List Statement → List Assignment × List Section
  | [] => ([], [])
  | .assignment assignment :: rest =>
      let (first, others) := sections rest
      (assignment :: first, others)
  | .header header :: rest =>
      let (content, others) := sections rest
      ([], ⟨header, content⟩ :: others)

def enterSection (part : Section) : Edit :=
  match part.header with
  | .table (path, name) => changeAt .passed (stateTable name part.assignments) path
  | .series (path, name) => changeAt .passed (extendSeries name part.assignments) path

def enterSections : List Section → Entries → Option Entries
  | [], entries => some entries
  | first :: rest, entries => (enterSection first .stated entries).bind (enterSections rest)

/-- A mark of the byte order in front of the text is no part of it. -/
def skipByteOrderMark : List Char → List Char
  | '\uFEFF' :: rest => rest
  | chars => chars

/-- The members of the table that a text describes, in the order of the text. -/
def ofText? (source : String) : Option (List (String × Json)) := do
  let chars := skipByteOrderMark source.toList
  let (first, others) := sections (← statements? (chars.length + 1) chars)
  let entries ← enterSections others (← assignAll first [])
  some (entriesToJson entries)

/-- What a table holds instead of members of its own if its first member has the
name that carries a moment. -/
def carried? : List (String × Json) → Option Json
  | (name, value) :: _ => if name = momentName then some value else none
  | [] => none

def momentOf? : Json → Option Moment
  | .text source => Moment.ofText? source
  | _ => none

mutual

/-- The value that a part of a text stands for, with the members of tables in the
order of their names. A table that carries a moment stands for it and for nothing
else; there is no value if what it carries is no moment. -/
def settled? : Json → Option Json
  | .list items => (settledItems? items).map .list
  | .record members =>
      match carried? members with
      | some value => (momentOf? value).map ofMoment
      | none => (settledMembers? members).map Json.recordOf
  | plain => some plain

def settledItems? : List Json → Option (List Json)
  | [] => some []
  | item :: rest => do
      let item ← settled? item
      let items ← settledItems? rest
      some (item :: items)

def settledMembers? : List (String × Json) → Option (List (String × Json))
  | [] => some []
  | (name, value) :: rest => do
      let value ← settled? value
      let members ← settledMembers? rest
      some ((name, value) :: members)

end

end DesignExport.Toml
