set_option autoImplicit false

/-! Where files are read and written. -/

namespace DesignExport

/-- Files by path. A refusal comes as a text for the user. -/
structure Store (m : Type → Type) where
  read : String → m (Except String String)
  write : String → String → m (Except String Unit)
  /-- Makes the folder that a path is in, and all folders around it. -/
  makeFolderOf : String → m (Except String Unit)

end DesignExport
