import DesignExport.Settings
import DesignExport.Text.Words
set_option autoImplicit false

/-! Names of classes, members and files in generated code. They consist of ASCII
letters and digits and start with a letter. -/

namespace DesignExport.Naming

/-- Cuts a name into its runs of letters and digits, given the run begun. -/
def cutRuns (run : List Char) : List Char → List (List Char)
  | [] => [run]
  | char :: rest => if char.isAlphanum then cutRuns (run ++ [char]) rest else run :: cutRuns [] rest

/-- Whatever is neither letter nor digit separates words. -/
def nameWords (raw : String) : List (List Char) :=
  (cutRuns [] raw.toList).filter (fun word => !word.isEmpty)

/-- The words of a name with one space between neighbours. -/
def spaced (raw : String) : List Char :=
  Text.joinWith [' '] (nameWords raw)

/-- An empty name is replaced, and a name that starts with a digit gets a letter
in front. -/
def complete (substitute : String) (letter : Char) (name : List Char) : String :=
  match name with
  | [] => substitute
  | first :: _ => String.ofList (if first.isDigit then letter :: name else name)

/-- A class name such as `HomePage`. -/
def className (raw : String) (normalize : Bool) : String :=
  complete "Widget" 'W'
    (if normalize then Text.pascalCase (spaced raw) else (nameWords raw).flatten)

/-- A name of a member or a parameter such as `primaryBlue`. -/
def identifier (raw : String) (normalize : Bool) : String :=
  complete "value" 'k'
    (if normalize then Text.camelCase (spaced raw) else (nameWords raw).flatten)

/-- `HomePage` is found in `home_page.dart`. -/
def fileName (className : String) : String :=
  Text.snakeCase className ++ ".dart"

/-- The class of an artboard or master component. -/
def widgetClassName {α : Type} (layer : LayerInfo α) (settings : Settings) : String :=
  match layer.textProperty? .widgetName with
  | some name => className name false
  | none => settings.widgetPrefix ++ className layer.name settings.normalizeNameCase

end DesignExport.Naming
