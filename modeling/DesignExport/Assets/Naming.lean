import DesignExport.Naming
import DesignExport.Text.Blank
set_option autoImplicit false

/-! Names in the classes for shared assets. -/

namespace DesignExport.AssetNaming

/-- A class without a name of its own takes the usual one. -/
def className (configured usual : String) : String :=
  if (Text.trim configured).isEmpty then usual else Naming.className configured false

/-- The member for an asset. Assets without any letter or digit in their name have
none. -/
def member? (name : Option String) : Option String :=
  (name.filter (fun raw => raw.toList.any Char.isAlphanum)).map
    (fun raw => Naming.identifier raw false)

end DesignExport.AssetNaming
