import DesignExport.Assets.Naming
import DesignExport.Export.SourceFile
import DesignExport.Paint
import DesignExport.Settings
set_option autoImplicit false

/-! The class for shared colours and gradients. Members whose names differ in a
final number also make up a list. -/

namespace DesignExport.ColorClass

variable {α : Type} [Scalar α]

inductive MemberKind where
  | color
  | gradient
deriving DecidableEq

def MemberKind.listType : MemberKind → String
  | .color => "Color"
  | .gradient => "Gradient"

/-- Members of one kind by number. -/
structure NumberedList where
  kind : MemberKind
  members : List (Nat × String)
deriving DecidableEq

namespace NumberedList

def member? (list : NumberedList) (number : Nat) : Option String :=
  (list.members.find? (fun entry => entry.1 = number)).map Prod.snd

/-- Of members with one number the last one counts. -/
def insert (list : NumberedList) (number : Nat) (name : String) : NumberedList :=
  { list with members := (number, name) :: list.members.filter (fun entry => entry.1 ≠ number) }

/-- Members from a number on up to the first gap, at most as many as `most`. -/
def run (list : NumberedList) : Nat → Nat → List String
  | 0, _ => []
  | most + 1, number =>
      match list.member? number with
      | some name => name :: run list most (number + 1)
      | none => []

/-- All members up to the first gap. -/
def names (list : NumberedList) : List String :=
  list.run list.members.length 0

/-- Lists have at least two members. -/
def declaration? (base : String) (list : NumberedList) : Option String :=
  if (list.member? 0).isSome && (list.member? 1).isSome then
    some ("  static const List<" ++ list.kind.listType ++ "> " ++ base ++ " = const [" ++
      String.intercalate ", " list.names ++ "];")
  else none

end NumberedList

/-- Numbers of members are below this bound. -/
def numberBound : Nat := 18446744073709551616

/-- The value of decimal digits. -/
def numberOf (digits : List Char) : Nat :=
  digits.foldl (fun value digit => 10 * value + (digit.toNat - '0'.toNat)) 0

/-- Cuts a name in front of its final digits. The first character stays in front. -/
def splitNumber : List Char → List Char × List Char
  | [] => ([], [])
  | char :: rest =>
      if rest.all Char.isDigit then ([char], rest)
      else
        let (base, digits) := splitNumber rest
        (char :: base, digits)

/-- The base and the number of a numbered name. -/
def numbered? (name : String) : Option (String × Nat) :=
  let (base, digits) := splitNumber name.toList
  if digits.isEmpty || numberBound ≤ numberOf digits then none
  else some (String.ofList base, numberOf digits)

/-- What has been declared so far. -/
structure Draft where
  declared : List String
  lines : List String
  lists : Table NumberedList
  log : Log

def Draft.empty : Draft := ⟨[], [], [], []⟩

def Draft.warn (draft : Draft) (message : String) : Draft :=
  { draft with log := draft.log ++ [⟨.warning, message, none⟩] }

/-- Enters a member into the list that its name asks for. -/
def Draft.enter (draft : Draft) (name : String) (kind : MemberKind) : Draft :=
  match numbered? name with
  | none => draft
  | some (base, number) =>
      let list := (Table.find? base draft.lists).getD ⟨kind, []⟩
      if list.kind = kind then
        { draft with lists := Table.insert base (list.insert number name) draft.lists }
      else
        draft.warn ("Color asset lists can't mix colors and gradients (" ++ base ++ ")")

def Draft.declare (draft : Draft) (name : String) (kind : MemberKind) (type value : String) : Draft :=
  { draft with
    declared := draft.declared ++ [name]
    lines := draft.lines ++ ["  static const " ++ type ++ " " ++ name ++ " = " ++ value ++ ";"] }.enter
      name kind

/-- The type and the expression of a gradient. -/
def gradient? (fill : Fill α) : Option (String × String) :=
  match fill with
  | .linear _ => (Paint.gradient? fill (1.0 : α)).map (fun value => ("LinearGradient", value))
  | .radial _ => (Paint.gradient? fill (1.0 : α)).map (fun value => ("RadialGradient", value))
  | _ => none

/-- Declares an asset under a name that is free. -/
def Draft.addNamed (draft : Draft) (name : String) (asset : ColorAsset α) : Draft :=
  match asset.color, asset.gradient with
  | some color, _ => draft.declare name .color "Color" (Dart.colorLiteral color (1.0 : α))
  | none, some fill =>
      match gradient? fill with
      | some (type, value) => draft.declare name .gradient type value
      | none =>
          draft.warn ("Unsupported " ++ fill.label ++ " in color asset '" ++ name ++ "'")
  | none, none => draft

def Draft.add (draft : Draft) (asset : ColorAsset α) : Draft :=
  match AssetNaming.member? asset.name with
  | none => draft
  | some name =>
      if draft.declared.contains name then
        draft.warn ("Duplicate color asset name: " ++ name)
      else draft.addNamed name asset

/-- The lists whose base is not a member itself. -/
def listLines (declared : List String) : Table NumberedList → List String × Log
  | [] => ([], [])
  | (base, list) :: rest =>
      let (lines, log) := listLines declared rest
      if declared.contains base then
        (lines, ⟨.warning, "Color list '" ++ base ++ "' collides with a color asset name", none⟩ :: log)
      else ((list.declaration? base).toList ++ lines, log)

def usualName : String := "GenColors"

/-- The file with the colours of a document, unless it has none or they are not
to be exported. -/
def file? (assets : Assets α) (settings : Settings) : Option SourceFile × Log :=
  if !settings.exportColors || assets.colors.isEmpty then (none, [])
  else
    let className := AssetNaming.className settings.colorsClassName usualName
    let draft := assets.colors.foldl Draft.add Draft.empty
    let (lists, log) := listLines draft.declared draft.lists
    let listBlock := if lists.isEmpty then [] else "" :: lists
    (some (SourceFile.ofLines className
      ([SourceFile.materialImport, "", "class " ++ className ++ " \x7b"] ++ draft.lines ++
        listBlock ++ ["\x7d", ""])),
      draft.log ++ log)

end DesignExport.ColorClass
