import DesignExport.Json.Value
import DesignExport.Number.Layout
set_option autoImplicit false

/-! Writing JSON values, on one line or indented by two spaces a level. -/

namespace DesignExport.Json

def hexDigit (value : Nat) : Char :=
  "0123456789abcdef".toList.getD value '0'

/-- Control characters without a short form are written by their code. -/
def escape (char : Char) : List Char :=
  if char = '"' then ['\\', '"']
  else if char = '\\' then ['\\', '\\']
  else if char = '\n' then ['\\', 'n']
  else if char = '\r' then ['\\', 'r']
  else if char = '\t' then ['\\', 't']
  else if char = '\u0008' then ['\\', 'b']
  else if char = '\u000C' then ['\\', 'f']
  else if char.toNat < 32 then
    ['\\', 'u', '0', '0', hexDigit (char.toNat / 16), hexDigit (char.toNat % 16)]
  else [char]

def quote (source : String) : String :=
  "\"" ++ String.ofList (source.toList.flatMap escape) ++ "\""

/-- What is not finite has no notation and is written as null. -/
def Number.write : Number → String
  | .whole value => toString value
  | .fraction value => if value.isFinite then Number.json.write value else "null"

mutual

/-- One line without spaces. -/
def compact : Json → String
  | .null => "null"
  | .flag value => if value then "true" else "false"
  | .number value => value.write
  | .text value => quote value
  | .list items => "[" ++ compactItems items ++ "]"
  | .record members => "\x7b" ++ compactMembers members ++ "\x7d"

def compactItems : List Json → String
  | [] => ""
  | [item] => compact item
  | item :: rest => compact item ++ "," ++ compactItems rest

def compactMembers : List (String × Json) → String
  | [] => ""
  | [(name, value)] => quote name ++ ":" ++ compact value
  | (name, value) :: rest => quote name ++ ":" ++ compact value ++ "," ++ compactMembers rest

end

def indentation (level : Nat) : String :=
  "\n" ++ String.ofList (List.replicate (2 * level) ' ')

mutual

/-- Each item and each member stands on a line of its own. -/
def indented (level : Nat) : Json → String
  | .null => "null"
  | .flag value => if value then "true" else "false"
  | .number value => value.write
  | .text value => quote value
  | .list [] => "[]"
  | .list items => "[" ++ indentedItems (level + 1) items ++ indentation level ++ "]"
  | .record [] => "\x7b\x7d"
  | .record members =>
      "\x7b" ++ indentedMembers (level + 1) members ++ indentation level ++ "\x7d"

def indentedItems (level : Nat) : List Json → String
  | [] => ""
  | [item] => indentation level ++ indented level item
  | item :: rest => indentation level ++ indented level item ++ "," ++ indentedItems level rest

def indentedMembers (level : Nat) : List (String × Json) → String
  | [] => ""
  | [(name, value)] => indentation level ++ quote name ++ ": " ++ indented level value
  | (name, value) :: rest =>
      indentation level ++ quote name ++ ": " ++ indented level value ++ "," ++
        indentedMembers level rest

end

def pretty (value : Json) : String :=
  indented 0 value

end DesignExport.Json
