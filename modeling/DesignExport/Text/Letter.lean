import DesignExport.Text.Cluster
import DesignExport.Text.LetterTable
set_option autoImplicit false

/-! Lower case of whole texts, and the case of single written units. -/

namespace DesignExport.Text

/-- Changes when raised to upper case. -/
def isRaisable (char : Char) : Bool :=
  if char.toNat < 128 then char.isLower
  else raisedRuns.any (fun (first, last, step) =>
    first ≤ char.toNat && char.toNat ≤ last && (char.toNat - first) % step = 0)

/-- The capital i with dot is the only letter with two lower-case characters. -/
def lowered (char : Char) : List Char :=
  if char.toNat < 128 then [char.toLower]
  else if char = 'İ' then ['i', '\u0307']
  else
    match loweredRuns.find? (fun run => run.holds char.toNat) with
    | some run => [Char.ofNat ((char.toNat : Int) + run.shift).toNat]
    | none => [char]

def isLowerable (char : Char) : Bool :=
  lowered char != [char]

def hasCasePartner (char : Char) : Bool :=
  isRaisable char || isLowerable char

/-- A letter may have a case and no partner in the other one, as the double-struck
letters do. -/
def isCased (char : Char) : Bool :=
  hasCasePartner char || isWithin unpairedRuns char

/-- Characters that are passed over in search of a neighbouring letter: narrow
marks, signs that change a letter, invisible characters, and the stops that may
stand inside a word. -/
def isCaseIgnorable (char : Char) : Bool :=
  char = joiner || isNarrowMark char || isWithin ignorableRuns char

private def startsCased (text : List Char) : Bool :=
  match text.dropWhile isCaseIgnorable with
  | char :: _ => isCased char
  | [] => false

/-- A capital sigma that ends a word has a lower-case form of its own. `before`
is the text in front, nearest character first. -/
def lowerAfter (before : List Char) : List Char → List Char
  | [] => []
  | char :: text =>
      let letters :=
        if char = 'Σ' then
          if startsCased before && !startsCased text then ['ς'] else ['σ']
        else lowered char
      letters ++ lowerAfter (char :: before) text

def lower (text : List Char) : List Char :=
  lowerAfter [] text

/-- A unit is in a case if it has a letter with a partner and none that would
change. -/
def isUpperUnit (unit : WrittenUnit) : Bool :=
  unit.any hasCasePartner && !unit.any isRaisable

def isLowerUnit (unit : WrittenUnit) : Bool :=
  unit.any hasCasePartner && !unit.any isLowerable

def isDigitUnit (unit : WrittenUnit) : Bool :=
  unit.all Char.isDigit

end DesignExport.Text
