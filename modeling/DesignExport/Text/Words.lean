import DesignExport.Text.Letter
set_option autoImplicit false

/-! Words of a name. A name is cut at hyphens, underscores and spaces, which are
dropped, and between a lower-case and an upper-case unit, between letters and
digits, and before the last capital of a run of capitals that goes on in lower
case. -/

namespace DesignExport.Text

def isWordSeparator (unit : WrittenUnit) : Bool :=
  unit == ['-'] || unit == ['_'] || unit == [' ']

/-- Whether a word ends between two neighbouring units. -/
def changesKind (first second : WrittenUnit) : Bool :=
  (isLowerUnit first && isUpperUnit second) ||
  (isUpperUnit first && isDigitUnit second) ||
  (isDigitUnit first && isUpperUnit second) ||
  (isDigitUnit first && isLowerUnit second) ||
  (isLowerUnit first && isDigitUnit second)

/-- Whether a word ends after a run of capitals: `next` is the first unit in
lower case. -/
def endsCapitals (first second : WrittenUnit) (next : Option WrittenUnit) : Bool :=
  match next with
  | some third => isUpperUnit first && isUpperUnit second && isLowerUnit third
  | none => false

def startsWord (previous : Option WrittenUnit) (unit : WrittenUnit) (next : Option WrittenUnit) : Bool :=
  match previous with
  | some first => changesKind first unit || endsCapitals first unit next
  | none => false

/-- Cuts the rest of a name, given the unit before it and the word begun. -/
def cutWords (previous : Option WrittenUnit) (word : List Char) : List WrittenUnit → List (List Char)
  | [] => [word]
  | unit :: rest =>
      if isWordSeparator unit then word :: cutWords (some unit) [] rest
      else if startsWord previous unit rest.head? then word :: cutWords (some unit) unit rest
      else cutWords (some unit) (word ++ unit) rest

def words (name : List Char) : List (List Char) :=
  (cutWords none [] (units name)).filter (fun word => !word.isEmpty)

/-- The words of an ASCII name start with a capital. -/
def capitalized : List Char → List Char
  | [] => []
  | char :: word => char.toUpper :: word.map Char.toLower

def joinWith (separator : List Char) : List (List Char) → List Char
  | [] => []
  | [word] => word
  | word :: rest => word ++ separator ++ joinWith separator rest

/-- `home_page` -/
def snakeCase (name : String) : String :=
  String.ofList (joinWith ['_'] ((words name.toList).map lower))

/-- `HomePage`, for ASCII names. -/
def pascalCase (name : List Char) : List Char :=
  ((words name).map capitalized).flatten

/-- `homePage`, for ASCII names. -/
def camelCase (name : List Char) : List Char :=
  match words name with
  | [] => []
  | first :: rest => first.map Char.toLower ++ (rest.map capitalized).flatten

end DesignExport.Text
