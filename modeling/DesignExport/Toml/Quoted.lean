set_option autoImplicit false

/-! Blanks, comments and quoted texts of TOML. -/

namespace DesignExport.Toml

def isSpace (char : Char) : Bool :=
  char = ' ' || char = '\t'

def skipSpace (chars : List Char) : List Char :=
  chars.dropWhile isSpace

def newline? : List Char → Option (List Char)
  | '\n' :: rest => some rest
  | '\r' :: '\n' :: rest => some rest
  | _ => none

/-- Control characters other than the tabulator are not allowed anywhere. -/
def isPrintable (char : Char) : Bool :=
  char = '\t' || (' ' ≤ char && char ≠ '\u007F')

def skipComment : List Char → List Char
  | '#' :: rest => rest.dropWhile isPrintable
  | chars => chars

/-- The end of a line: blanks, a comment, and a newline or the end of the text. -/
def endOfLine? (chars : List Char) : Option (List Char) :=
  match skipComment (skipSpace chars) with
  | [] => some []
  | rest => newline? rest

def hexValue? (char : Char) : Option Nat :=
  if char.isDigit then some (char.toNat - '0'.toNat)
  else if 'a' ≤ char && char ≤ 'f' then some (char.toNat - 'a'.toNat + 10)
  else if 'A' ≤ char && char ≤ 'F' then some (char.toNat - 'A'.toNat + 10)
  else none

/-- The character with a code in hexadecimal digits. Surrogates are none. -/
def charOfCode? (digits : List Char) : Option Char :=
  match digits.mapM hexValue? with
  | none => none
  | some values =>
      let code := values.foldl (fun code value => 16 * code + value) 0
      if code < 0xD800 || (0xDFFF < code && code < 0x110000) then some (Char.ofNat code) else none

/-- What a letter behind a backslash stands for. -/
def escaped? (mark : Char) : Option Char :=
  if mark = 'b' then some '\u0008'
  else if mark = 't' then some '\t'
  else if mark = 'n' then some '\n'
  else if mark = 'f' then some '\u000C'
  else if mark = 'r' then some '\r'
  else if mark = '"' then some '"'
  else if mark = '\\' then some '\\'
  else none

/-- A text and what follows its closing quote. -/
abbrev Taken := Option (List Char × List Char)

def push (char : Char) (taken : Taken) : Taken :=
  taken.map (fun (text, rest) => (char :: text, rest))

def pushCode (digits : List Char) (taken : Taken) : Taken :=
  match charOfCode? digits with
  | some char => push char taken
  | none => none

/-- The rest of a text in double quotes. -/
def basicText? : List Char → Taken
  | [] => none
  | '"' :: rest => some ([], rest)
  | '\\' :: 'u' :: a :: b :: c :: d :: rest => pushCode [a, b, c, d] (basicText? rest)
  | '\\' :: 'U' :: a :: b :: c :: d :: e :: f :: g :: h :: rest =>
      pushCode [a, b, c, d, e, f, g, h] (basicText? rest)
  | '\\' :: mark :: rest =>
      match escaped? mark with
      | some char => push char (basicText? rest)
      | none => none
  | char :: rest => if isPrintable char then push char (basicText? rest) else none

/-- The rest of a text in single quotes. -/
def literalText? : List Char → Taken
  | [] => none
  | '\'' :: rest => some ([], rest)
  | char :: rest => if isPrintable char then push char (literalText? rest) else none

/-- A backslash at the end of a line, blanks allowed behind it. -/
def joinsLines (rest : List Char) : Bool :=
  (newline? (skipSpace rest)).isSome

/-- The rest of a text in three double quotes. Up to two quotes may stand in front
of the closing ones. `joining`: blanks and newlines are passed over until
something else comes. -/
def longText? (joining : Bool) : List Char → Taken
  | [] => none
  | '"' :: '"' :: '"' :: '"' :: '"' :: rest => some (['"', '"'], rest)
  | '"' :: '"' :: '"' :: '"' :: rest => some (['"'], rest)
  | '"' :: '"' :: '"' :: rest => some ([], rest)
  | '\\' :: 'u' :: a :: b :: c :: d :: rest => pushCode [a, b, c, d] (longText? false rest)
  | '\\' :: 'U' :: a :: b :: c :: d :: e :: f :: g :: h :: rest =>
      pushCode [a, b, c, d, e, f, g, h] (longText? false rest)
  | '\\' :: mark :: rest =>
      match escaped? mark with
      | some char => push char (longText? false rest)
      | none => if joinsLines (mark :: rest) then longText? true rest else none
  | '\r' :: '\n' :: rest =>
      if joining then longText? true rest else push '\n' (longText? false rest)
  | '\n' :: rest => if joining then longText? true rest else push '\n' (longText? false rest)
  | char :: rest =>
      if joining && isSpace char then longText? true rest
      else if isPrintable char then push char (longText? false rest)
      else none

/-- The rest of a text in three single quotes. -/
def longLiteral? : List Char → Taken
  | [] => none
  | '\'' :: '\'' :: '\'' :: '\'' :: '\'' :: rest => some (['\'', '\''], rest)
  | '\'' :: '\'' :: '\'' :: '\'' :: rest => some (['\''], rest)
  | '\'' :: '\'' :: '\'' :: rest => some ([], rest)
  | '\r' :: '\n' :: rest => push '\n' (longLiteral? rest)
  | '\n' :: rest => push '\n' (longLiteral? rest)
  | char :: rest => if isPrintable char then push char (longLiteral? rest) else none

/-- A newline right behind the opening quotes is no part of the text. -/
def skipNewline (chars : List Char) : List Char :=
  (newline? chars).getD chars

/-- A text with its quotes. -/
def quotedText? : List Char → Taken
  | '"' :: '"' :: '"' :: rest => longText? false (skipNewline rest)
  | '"' :: rest => basicText? rest
  | '\'' :: '\'' :: '\'' :: rest => longLiteral? (skipNewline rest)
  | '\'' :: rest => literalText? rest
  | _ => none

end DesignExport.Toml
