import DesignExport.Json.Numeral
set_option autoImplicit false

/-! Scanning JSON texts. Scanning goes on as far as any reader would, and marks
the places where only some readers stop. No rest of the text is handed on from
a place where every reader stops. -/

namespace DesignExport.Json

def isGap (char : Char) : Bool :=
  char = ' ' || char = '\n' || char = '\t' || char = '\r'

def skipGaps (chars : List Char) : List Char :=
  chars.dropWhile isGap

def hexValue? (char : Char) : Option Nat :=
  if '0' ≤ char && char ≤ '9' then some (char.toNat - '0'.toNat)
  else if 'a' ≤ char && char ≤ 'f' then some (char.toNat - 'a'.toNat + 10)
  else if 'A' ≤ char && char ≤ 'F' then some (char.toNat - 'A'.toNat + 10)
  else none

/-- Four bytes are needed; they count as cut short before they are looked at. -/
def holdsFourBytes (chars : List Char) : Bool :=
  4 ≤ (chars.take 4).foldl (fun total char => total + char.utf8Size) 0

def scanFourDigits (chars : List Char) : Except Fault (Nat × List Char) :=
  if holdsFourBytes chars then
    match chars with
    | a :: b :: c :: d :: rest =>
        match hexValue? a, hexValue? b, hexValue? c, hexValue? d with
        | some a, some b, some c, some d => .ok (((a * 16 + b) * 16 + c) * 16 + d, rest)
        | _, _, _, _ => .error .malformed
    | _ => .error .malformed
  else .error .cutShort

def simpleEscape? (char : Char) : Option Char :=
  if char = '"' || char = '\\' || char = '/' then some char
  else if char = 'b' then some '\u0008'
  else if char = 'f' then some '\u000C'
  else if char = 'n' then some '\n'
  else if char = 'r' then some '\r'
  else if char = 't' then some '\t'
  else none

/-- The second half of a character outside the basic plane. -/
def scanTrailing (leading : Nat) : List Char → Except Fault (Char × List Char)
  | [] => .error .cutShort
  | '\\' :: [] => .error .cutShort
  | '\\' :: 'u' :: chars =>
      match scanFourDigits chars with
      | .error fault => .error fault
      | .ok (trailing, rest) =>
          if 0xDC00 ≤ trailing && trailing ≤ 0xDFFF then
            .ok (Char.ofNat (0x10000 + (leading - 0xD800) * 0x400 + (trailing - 0xDC00)), rest)
          else .error .malformed
  | _ => .error .malformed

/-- What is known of a text between quotation marks. -/
inductive Quoted where
  /-- The text, or the fault its reader meets, and what follows. -/
  | closed (content : Except Fault String) (rest : List Char)
  /-- The faults of its reader and of one that passes over it. -/
  | unclosed (fault skimmed : Fault)

def Quoted.failing (flaw : Option Fault) (fault : Fault) : Quoted :=
  .unclosed (flaw.getD fault) fault

/-- Scans the inside of a quoted text. `content` is what was read, last
character first; a reader that met a flaw is not interested in it any more. -/
def scanQuoted : Nat → List Char → Option Fault → List Char → Quoted
  | 0, _, flaw, _ => .failing flaw .cutShort
  | _ + 1, _, flaw, [] => .failing flaw .cutShort
  | _ + 1, content, flaw, '"' :: rest =>
      match flaw with
      | some fault => .closed (.error fault) rest
      | none => .closed (.ok (String.ofList content.reverse)) rest
  | fuel + 1, content, flaw, '\\' :: chars =>
      match chars with
      | [] => .failing flaw .cutShort
      | 'u' :: digits =>
          match scanFourDigits digits with
          | .error fault => .failing flaw fault
          | .ok (code, rest) =>
              if 0xD800 ≤ code && code ≤ 0xDBFF then
                match scanTrailing code rest with
                | .ok (char, rest) => scanQuoted fuel (char :: content) flaw rest
                | .error fault => scanQuoted fuel content (some (flaw.getD fault)) rest
              else if 0xDC00 ≤ code && code ≤ 0xDFFF then
                scanQuoted fuel content (some (flaw.getD .malformed)) rest
              else scanQuoted fuel (Char.ofNat code :: content) flaw rest
      | char :: rest =>
          match simpleEscape? char with
          | some escaped => scanQuoted fuel (escaped :: content) flaw rest
          | none => .failing flaw .malformed
  | fuel + 1, content, flaw, char :: rest =>
      if char.toNat < 32 then .failing flaw .malformed
      else scanQuoted fuel (char :: content) flaw rest

def quoted (chars : List Char) : Quoted :=
  scanQuoted (chars.length + 1) [] none chars

/-- The rest of a word whose first letter was seen. -/
def scanWord (found : Reading) : List Char → List Char → Reading × Option (List Char)
  | [], chars => (found, some chars)
  | _ :: _, [] => (.flawed .cutShort (.broken .cutShort), none)
  | letter :: letters, char :: chars =>
      if letter = char then scanWord found letters chars
      else (.flawed .malformed (.broken .malformed), none)

/-- Lists and records may lie inside one another up to this depth. -/
def deepest : Nat := 127

def atDepth (depth : Nat) (reading : Reading) : Reading :=
  if depth ≤ deepest then reading else .flawed .malformed reading

/-- The fault of a reader that looks for a text in place of a reading. -/
def Reading.misfit : Reading → Fault
  | .broken fault => fault
  | .unclosed fault _ => fault
  | .flawed _ (.list _) | .flawed _ (.record _) => .misfit
  | .flawed fault _ => fault
  | _ => .misfit

mutual

/-- Scans a value inside `depth` lists and records. -/
def scanValue : Nat → Nat → List Char → Reading × Option (List Char)
  | 0, _, _ => (.broken .cutShort, none)
  | fuel + 1, depth, chars =>
      match skipGaps chars with
      | [] => (.broken .cutShort, none)
      | 'n' :: rest => scanWord .null ['u', 'l', 'l'] rest
      | 't' :: rest => scanWord (.flag true) ['r', 'u', 'e'] rest
      | 'f' :: rest => scanWord (.flag false) ['a', 'l', 's', 'e'] rest
      | '-' :: rest => scanNumeral true rest
      | '"' :: rest =>
          match quoted rest with
          | .closed (.ok content) rest => (.text content, some rest)
          | .closed (.error fault) rest => (.flawed fault (.text ""), some rest)
          | .unclosed fault skimmed => (.unclosed fault skimmed, none)
      | '[' :: rest =>
          let (items, rest) := scanItems fuel (depth + 1) true rest
          (atDepth (depth + 1) (.list items), rest)
      | '{' :: rest =>
          let (members, rest) := scanMembers fuel (depth + 1) true rest
          (atDepth (depth + 1) (.record members), rest)
      | char :: rest =>
          if char.isDigit then scanNumeral false (char :: rest) else (.broken .malformed, none)

/-- Scans the items of a list up to and including its closing bracket. -/
def scanItems : Nat → Nat → Bool → List Char → Items × Option (List Char)
  | 0, _, _, _ => (.stop .cutShort, none)
  | fuel + 1, depth, isFirst, chars =>
      match skipGaps chars, isFirst with
      | [], _ => (.stop .cutShort, none)
      | ']' :: rest, _ => (.done, some rest)
      | ',' :: rest, false =>
          match skipGaps rest with
          | [] => (.next (.broken .cutShort) (.stop .cutShort), none)
          | _ => scanItem fuel depth rest
      | rest, true => scanItem fuel depth rest
      | _, false => (.stop .malformed, none)

def scanItem : Nat → Nat → List Char → Items × Option (List Char)
  | 0, _, _ => (.stop .cutShort, none)
  | fuel + 1, depth, chars =>
      match scanValue fuel depth chars with
      | (item, none) => (.next item (.stop .malformed), none)
      | (item, some rest) =>
          let (items, rest) := scanItems fuel depth false rest
          (.next item items, rest)

/-- Scans the members of a record up to and including its closing brace. -/
def scanMembers : Nat → Nat → Bool → List Char → Members × Option (List Char)
  | 0, _, _, _ => (.stop .cutShort .cutShort, none)
  | fuel + 1, depth, isFirst, chars =>
      match skipGaps chars, isFirst with
      | [], _ => (.stop .cutShort .cutShort, none)
      | '}' :: rest, _ => (.done, some rest)
      | ',' :: rest, false =>
          match skipGaps rest with
          | [] => (.stop .cutShort .malformed, none)
          | '"' :: rest => scanMember fuel depth rest
          | _ => (.stop .malformed .malformed, none)
      | '"' :: rest, true => scanMember fuel depth rest
      | rest, true => (.stop .malformed (scanValue fuel depth rest).1.misfit, none)
      | _, false => (.stop .malformed .malformed, none)

/-- Scans a member whose opening quotation mark was seen. -/
def scanMember : Nat → Nat → List Char → Members × Option (List Char)
  | 0, _, _ => (.stop .cutShort .cutShort, none)
  | fuel + 1, depth, chars =>
      match quoted chars with
      | .unclosed fault skimmed => (.flawedName fault (.broken skimmed) (.stop .malformed .malformed), none)
      | .closed name rest =>
          let (value, rest) := match skipGaps rest with
            | [] => (Reading.broken .cutShort, none)
            | ':' :: rest => scanValue fuel depth rest
            | _ => (Reading.broken .malformed, none)
          let (members, rest) := match rest with
            | none => (Members.stop .malformed .malformed, none)
            | some rest => scanMembers fuel depth false rest
          match name with
          | .ok name => (.next name value members, rest)
          | .error fault => (.flawedName fault value members, rest)

end

/-- Each character takes at most four steps. -/
def scan (source : String) : Reading × Option (List Char) :=
  scanValue (4 * source.length + 8) 0 source.toList

/-- The fault in what follows the value of a text. -/
def afterValue : Option (List Char) → Except Fault Unit
  | none => .error .malformed
  | some rest => if (skipGaps rest).isEmpty then .ok () else .error .malformed

/-- The value of a text that holds nothing else. -/
def ofText? (source : String) : Except Fault Json :=
  let (reading, rest) := scan source
  match reading.value with
  | .error fault => .error fault
  | .ok value => (afterValue rest).map (fun _ => value)

end DesignExport.Json
