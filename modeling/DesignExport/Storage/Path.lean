set_option autoImplicit false

/-! Paths: names with slashes between them. A path that starts with a slash is
absolute. -/

namespace DesignExport.Path

/-- The pieces between slashes. -/
def split : List Char → List (List Char)
  | [] => [[]]
  | char :: rest =>
      if char = '/' then [] :: split rest
      else
        match split rest with
        | [] => [[char]]
        | piece :: pieces => (char :: piece) :: pieces

def pieces (path : String) : List String :=
  (split path.toList).map String.ofList

def isAbsolute (path : String) : Bool :=
  path.toList.head? = some '/'

/-- A path below a folder. An absolute path stands for itself. -/
def join (folder path : String) : String :=
  if isAbsolute path || folder.isEmpty then path
  else if folder.toList.getLast? = some '/' then folder ++ path
  else folder ++ "/" ++ path

/-- A path with these pieces. The empty piece that an absolute path starts with is
the root. -/
def ofPieces (pieces : List String) : String :=
  if pieces = [""] then "/" else String.intercalate "/" pieces

/-- Empty pieces and dots lead nowhere, except in front: there they are the root
and the place where a relative path starts. `around` is what stands before. -/
def isIdle (piece : String) (around : List String) : Bool :=
  (piece = "" || piece = ".") && !around.isEmpty

/-- What is left of the pieces of a path, last one first, without its name. -/
def withoutName : List String → List String
  | [] => []
  | piece :: around => if isIdle piece around then withoutName around else around

/-- The folder that a path is in. -/
def parent (path : String) : String :=
  ofPieces (withoutName (pieces path).reverse).reverse

end DesignExport.Path
