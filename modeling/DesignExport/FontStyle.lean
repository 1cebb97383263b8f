import DesignExport.Text.Blank
import DesignExport.Text.Letter
import DesignExport.Text.Search
set_option autoImplicit false

/-! The weight and the slant that the name of a font style speaks of. -/

namespace DesignExport.FontStyle

/-- Words for weights. Blanks may separate the parts of a word. Of words that
start at the same place the first one of the list is taken. -/
def weightWords : List (List String) :=
  [ ["hairline"], ["thin"], ["extra", "light"], ["ultra", "light"], ["extra", "bold"],
    ["ultra", "bold"], ["semi", "bold"], ["demi", "bold"], ["light"], ["book"], ["demi"],
    ["normal"], ["regular"], ["plain"], ["medium"], ["bold"], ["heavy"], ["black"], ["poster"] ]

def weightNames : List (String × String) :=
  [ ("thin", "w100"), ("hairline", "w100"), ("extralight", "w200"), ("ultralight", "w200"),
    ("light", "w300"), ("book", "w300"), ("demi", "w300"), ("medium", "w500"),
    ("semibold", "w600"), ("demibold", "w600"), ("bold", "w700"), ("extrabold", "w800"),
    ("ultrabold", "w800"), ("heavy", "w800"), ("black", "w900"), ("poster", "w900") ]

/-- Letters match without regard to case. The long s and the kelvin sign are
letters of this kind too. -/
def matchesLetter (letter char : Char) : Bool :=
  char.toLower = letter || (letter = 's' && char = 'ſ') || (letter = 'k' && char = '\u212A')

/-- The characters that match the letters, and the rest. -/
def takeLetters? : List Char → List Char → Option (List Char × List Char)
  | [], text => some ([], text)
  | _ :: _, [] => none
  | letter :: letters, char :: text =>
      if matchesLetter letter char then
        (takeLetters? letters text).map (fun (found, rest) => (char :: found, rest))
      else none

/-- The characters that match a word, blanks between its parts left out. -/
def takeWord? : List String → List Char → Option (List Char)
  | [], _ => some []
  | part :: parts, text =>
      match takeLetters? part.toList text with
      | none => none
      | some (found, rest) => (takeWord? parts (Text.trimStart rest)).map (found ++ ·)

/-- The first place where a word for a weight matches. -/
def findWord? : List Char → Option (List Char)
  | [] => none
  | char :: text =>
      match weightWords.findSome? (fun word => takeWord? word (char :: text)) with
      | some found => some found
      | none => findWord? text

/-- The weight constant for the name of a style; regular styles have none. -/
def weight? (style : String) : Option String :=
  match findWord? style.toList with
  | none => none
  | some found => (weightNames.find? (fun (word, _) => word.toList = Text.lower found)).map Prod.snd

def isItalic (style : String) : Bool :=
  let lowered := Text.lower style.toList
  Text.holds "italic" lowered || Text.holds "oblique" lowered

end DesignExport.FontStyle
