import DesignExport.Text.ClusterTable
set_option autoImplicit false

/-! Written units: what a reader takes for one character. A unit is a character
with the marks around it, a syllable, a flag, a conjunct or a joined picture; the
rules are those of the extended grapheme clusters of Unicode. The units of a text
hold all of it, in its order (`units_flatten`). -/

namespace DesignExport.Text

abbrev WrittenUnit := List Char

def isWithin (runs : List (Nat × Nat)) (char : Char) : Bool :=
  runs.any (fun (first, last) => first ≤ char.toNat && char.toNat ≤ last)

/-- Makes one picture of the two around it. -/
def joiner : Char := '\u200D'

/-- Keeps two characters from joining, and attaches to the first. -/
def nonJoiner : Char := '\u200C'

def isNarrowMark (char : Char) : Bool :=
  isWithin narrowMarkRuns char

/-- Marks that a picture or a consonant may carry when it joins another. -/
def isExtender (char : Char) : Bool :=
  isNarrowMark char || isWithin wideMarkRuns char

/-- Characters that attach to the one before them. -/
def isMark (char : Char) : Bool :=
  char = joiner || isExtender char || isWithin spacingMarkRuns char

def isControl (char : Char) : Bool :=
  isWithin controlRuns char

def isPicture (char : Char) : Bool :=
  isWithin pictureRuns char

/-- Two of these letters name a flag. -/
def isFlagLetter (char : Char) : Bool :=
  0x1F1E6 ≤ char.toNat && char.toNat ≤ 0x1F1FF

/-- The parts of a syllable block, and the blocks that may take more parts. -/
inductive BlockPart where
  | lead
  | vowel
  | tail
  | openBlock
  | closedBlock
  deriving DecidableEq

def leadRuns : List (Nat × Nat) :=
  [(0x1100, 0x115F), (0xA960, 0xA97C)]

def vowelRuns : List (Nat × Nat) :=
  [(0x1160, 0x11A7), (0xD7B0, 0xD7C6), (0x16D63, 0x16D63), (0x16D67, 0x16D6A)]

def tailRuns : List (Nat × Nat) :=
  [(0x11A8, 0x11FF), (0xD7CB, 0xD7FB)]

def blockPart (char : Char) : Option BlockPart :=
  let code := char.toNat
  if isWithin leadRuns char then some .lead
  else if isWithin vowelRuns char then some .vowel
  else if isWithin tailRuns char then some .tail
  else if 0xAC00 ≤ code && code ≤ 0xD7A3 then
    some (if (code - 0xAC00) % 28 = 0 then .openBlock else .closedBlock)
  else none

def BlockPart.takes : BlockPart → BlockPart → Bool
  | .lead, part => part != .tail
  | .vowel, part | .openBlock, part => part == .vowel || part == .tail
  | .tail, part | .closedBlock, part => part == .tail

def continuesBlock (last next : Char) : Bool :=
  match blockPart last, blockPart next with
  | some part, some added => part.takes added
  | _, _ => false

def continuesConjunct (before : List Char) (next : Char) : Bool :=
  let isJoin (char : Char) : Bool := char != nonJoiner && (char = joiner || isExtender char)
  isWithin consonantRuns next &&
  (before.takeWhile isJoin).any (isWithin linkerRuns) &&
  (before.dropWhile isJoin).head?.any (isWithin consonantRuns)

def continuesPicture (before : List Char) (next : Char) : Bool :=
  match before with
  | last :: earlier =>
      last = joiner && isPicture next && (earlier.dropWhile isExtender).head?.any isPicture
  | [] => false

def continuesFlag (before : List Char) (next : Char) : Bool :=
  isFlagLetter next && (before.takeWhile isFlagLetter).length % 2 = 1

/-- Whether a character goes on with the unit in front of it, whose characters
are given last one first. Two ASCII characters make one unit only as a line end. -/
def continues (before : List Char) (next : Char) : Bool :=
  match before with
  | [] => false
  | last :: _ =>
      (last = '\r' && next = '\n') ||
      ((128 ≤ last.toNat || 128 ≤ next.toNat) && !isControl last && !isControl next &&
        (isMark next || isWithin leadingMarkRuns last || continuesBlock last next ||
          continuesConjunct before next || continuesPicture before next ||
          continuesFlag before next))

/-- The units of a text behind a unit begun, whose characters are given last one
first. -/
def unitsAfter (before : List Char) : List Char → List WrittenUnit
  | [] => [before.reverse]
  | char :: text =>
      if continues before char then unitsAfter (char :: before) text
      else before.reverse :: unitsAfter [char] text

def units : List Char → List WrittenUnit
  | [] => []
  | char :: text => unitsAfter [char] text

theorem unitsAfter_flatten (text before : List Char) :
    (unitsAfter before text).flatten = before.reverse ++ text := by
  induction text generalizing before with
  | nil => simp [unitsAfter]
  | cons char text ih =>
      unfold unitsAfter
      split
      · simp [ih]
      · simp [ih]

theorem units_flatten (text : List Char) : (units text).flatten = text := by
  cases text with
  | nil => rfl
  | cons char text => simp [units, unitsAfter_flatten]

end DesignExport.Text
