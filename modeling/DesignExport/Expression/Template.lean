import DesignExport.Json.Decoder
import DesignExport.Text.Search
set_option autoImplicit false

/-! Templates of users. The first placeholder of a template stands for the
children of a layer or for the layer itself. -/

namespace DesignExport.Template

open DesignExport.Json (Decoder)
open DesignExport.Json.Decoder (field)

inductive Placeholder where
  | children
  | this
deriving DecidableEq

def Placeholder.name : Placeholder → String
  | .children => "CHILDREN"
  | .this => "THIS"

/-- A template cut around its first placeholder. -/
structure Cut where
  before : List Char
  placeholder : Placeholder
  /-- The settings between braces, the braces included. -/
  settings : Option (List Char)
  after : List Char
deriving DecidableEq

/-- Settings up to the first closing brace, and what follows it. -/
def takeSettings? : List Char → Option (List Char × List Char)
  | [] => none
  | char :: rest =>
      if char = '}' then some ([char], rest)
      else (takeSettings? rest).map (fun (settings, after) => (char :: settings, after))

/-- The end of a placeholder, with or without settings. -/
def takeEnd? : List Char → Option (Option (List Char) × List Char)
  | '>' :: after => some (none, after)
  | '{' :: rest =>
      match takeSettings? rest with
      | some (settings, '>' :: after) => some (some ('{' :: settings), after)
      | _ => none
  | _ => none

/-- A placeholder that the text starts with. -/
def takePlaceholder? (text : List Char) : Option (Placeholder × Option (List Char) × List Char) :=
  [Placeholder.children, .this].findSome? (fun placeholder =>
    (Text.afterStart? ('<' :: placeholder.name.toList) text).bind (fun rest =>
      (takeEnd? rest).map (fun (settings, after) => (placeholder, settings, after))))

/-- Cuts a template around its first placeholder. -/
def cut? : List Char → Option Cut
  | [] => none
  | char :: rest =>
      match takePlaceholder? (char :: rest) with
      | some (placeholder, settings, after) => some ⟨[], placeholder, settings, after⟩
      | none => (cut? rest).map (fun found => { found with before := char :: found.before })

/-- What is done to the layout of children that are put into a template. -/
inductive ChildLayout where
  | asDesigned
  /-- No layout at all. -/
  | none
  /-- Nothing but the size. -/
  | size
deriving DecidableEq

structure Settings where
  layout : Option String := .none
  /-- Code for the layer itself includes its layout and its decorators. -/
  decorators : Bool := false
deriving DecidableEq

def Settings.childLayout (settings : Settings) : ChildLayout :=
  if settings.layout = some "none" then .none
  else if settings.layout = some "size" then .size
  else .asDesigned

def decoder : Decoder Settings :=
  Decoder.record
    [ field "layout" (Decoder.optional Decoder.text) (fun settings layout => { settings with layout }),
      field "decorators" Decoder.flag (fun settings decorators => { settings with decorators }) ]
    {}

/-- Settings are read with double quotes first, then with single quotes for them. -/
def readSettings (text : List Char) : Except Json.Fault Settings :=
  match Json.decodeText decoder (String.ofList text) with
  | .ok settings => .ok settings
  | .error _ =>
      Json.decodeText decoder
        (String.ofList (text.map (fun char => if char = '\'' then '"' else char)))

end DesignExport.Template
