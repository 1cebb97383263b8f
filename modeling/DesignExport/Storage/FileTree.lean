import DesignExport.Storage.Path
import DesignExport.Storage.Store
import DesignExport.Text.Search
set_option autoImplicit false

/-! A store in memory: a tree of folders and files, and a working folder that
relative paths start from. It refuses what a Linux file system refuses, in the
same words. -/

namespace DesignExport

inductive Refusal where
  | notFound
  | exists
  | notFolder
  | isFolder
  | nameTooLong
  | holdsNul
deriving DecidableEq

def Refusal.text : Refusal → String
  | .notFound => "No such file or directory (os error 2)"
  | .exists => "File exists (os error 17)"
  | .notFolder => "Not a directory (os error 20)"
  | .isFolder => "Is a directory (os error 21)"
  | .nameTooLong => "File name too long (os error 36)"
  | .holdsNul => "file name contained an unexpected NUL byte"

/-- Where something is, as names from the root on. -/
abbrev Location := List String

inductive FileItem where
  | folder
  | file (content : String)
deriving DecidableEq

structure FileTree where
  working : Location
  items : List (Location × FileItem)
deriving DecidableEq

namespace FileTree

/-- The item at a location. The root is a folder. -/
def item? (tree : FileTree) (location : Location) : Option FileItem :=
  if location.isEmpty then some .folder
  else (tree.items.find? (fun entry => entry.1 = location)).map Prod.snd

def put (tree : FileTree) (location : Location) (item : FileItem) : FileTree :=
  { tree with
    items := tree.items.filter (fun entry => entry.1 ≠ location) ++ [(location, item)] }

/-- The longest name, in bytes. -/
def longestName : Nat := 255

def isTooLong (name : String) : Bool :=
  longestName < Text.byteCount name.toList

/-- The longest path, in bytes. -/
def longestPath : Nat := 4095

def isPathTooLong (path : String) : Bool :=
  longestPath < Text.byteCount path.toList

/-- Follows the pieces of a path, all of which must be folders. -/
def follow (tree : FileTree) : Location → List String → Except Refusal Location
  | location, [] => .ok location
  | location, piece :: rest =>
      if piece = "" || piece = "." then follow tree location rest
      else if piece = ".." then follow tree location.dropLast rest
      else if isTooLong piece then .error .nameTooLong
      else
        match tree.item? (location ++ [piece]) with
        | none => .error .notFound
        | some (.file _) => .error .notFolder
        | some .folder => follow tree (location ++ [piece]) rest

def startOf (tree : FileTree) (path : String) : Location :=
  if Path.isAbsolute path then [] else tree.working

/-- The last name of a path and the folder that it is in. -/
structure Target where
  folder : Location
  name : String
  /-- A slash behind the name asks for a folder. -/
  asFolder : Bool

/-- What a path leads to: a name in a folder, or a folder that it reaches without
naming it last. -/
inductive Reached where
  | target (target : Target)
  | folder

def reach (tree : FileTree) (path : String) : Except Refusal Reached :=
  if path.isEmpty then .error .notFound
  else if path.toList.contains '\x00' then .error .holdsNul
  else if isPathTooLong path then .error .nameTooLong
  else
    let backward := (Path.pieces path).reverse
    match backward.dropWhile (·.isEmpty) with
    | [] => .ok .folder
    | last :: before => do
        let folder ← tree.follow (tree.startOf path) before.reverse
        if last = "." || last = ".." then .ok .folder
        else .ok (.target ⟨folder, last, backward.head? = some ""⟩)

/-- The item that a target names. -/
def lookUp (tree : FileTree) (target : Target) : Except Refusal (Option FileItem) :=
  if isTooLong target.name then .error .nameTooLong
  else .ok (tree.item? (target.folder ++ [target.name]))

def read (tree : FileTree) (path : String) : Except Refusal String := do
  match ← tree.reach path with
  | .folder => .error .isFolder
  | .target target =>
      match ← tree.lookUp target with
      | none => .error .notFound
      | some .folder => .error .isFolder
      | some (.file content) => if target.asFolder then .error .notFolder else .ok content

def write (tree : FileTree) (path content : String) : Except Refusal FileTree := do
  match ← tree.reach path with
  | .folder => .error .isFolder
  | .target target =>
      if target.asFolder then .error .isFolder
      else
        match ← tree.lookUp target with
        | some .folder => .error .isFolder
        | _ => .ok (tree.put (target.folder ++ [target.name]) (.file content))

def makeFolder (tree : FileTree) (path : String) : Except Refusal FileTree := do
  match ← tree.reach path with
  | .folder => .error .exists
  | .target target =>
      match ← tree.lookUp target with
      | some _ => .error .exists
      | none => .ok (tree.put (target.folder ++ [target.name]) .folder)

def isFolder (tree : FileTree) (path : String) : Bool :=
  !path.isEmpty && !isPathTooLong path &&
    (tree.follow (tree.startOf path) (Path.pieces path)).isOk

/-- Makes a folder after the folders around it, given the pieces of its path, last
one first. A folder that is there is left as it is. -/
def makeFolders : FileTree → List String → Except Refusal FileTree
  | tree, [] => .ok tree
  | tree, piece :: around =>
      if Path.isIdle piece around then makeFolders tree around
      else
        let path := Path.ofPieces (piece :: around).reverse
        match tree.makeFolder path with
        | .ok made => .ok made
        | .error .notFound => do
            let grown ← makeFolders tree around
            match grown.makeFolder path with
            | .ok made => .ok made
            | .error refusal => if grown.isFolder path then .ok grown else .error refusal
        | .error refusal => if tree.isFolder path then .ok tree else .error refusal

/-- Makes the folder that a path is in. -/
def makeFolderOf (tree : FileTree) (path : String) : Except Refusal FileTree :=
  makeFolders tree (Path.withoutName (Path.pieces path).reverse)

/-- The files below the working folder by their paths from there. -/
def files (tree : FileTree) : List (String × String) :=
  tree.items.filterMap (fun (location, item) =>
    match item with
    | .file content =>
        if tree.working.isPrefixOf location then
          some (String.intercalate "/" (location.drop tree.working.length), content)
        else none
    | .folder => none)

/-- Keeps a changed tree and words a refusal. -/
def keep (result : Except Refusal FileTree) : StateM FileTree (Except String Unit) := do
  match result with
  | .ok changed =>
      set changed
      pure (.ok ())
  | .error refusal => pure (.error refusal.text)

/-- The store that a tree is. -/
def store : Store (StateM FileTree) where
  read path := do return ((← get).read path).mapError Refusal.text
  write path content := do keep ((← get).write path content)
  makeFolderOf path := do keep ((← get).makeFolderOf path)

end FileTree

end DesignExport
