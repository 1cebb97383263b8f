import DesignExport.Export.Run
import DesignExport.Json.Printer
import DesignExport.Storage.Path
import DesignExport.Storage.Store
set_option autoImplicit false

/-! The host of the program. Files go to a folder of a store. Renders go to a
manifest, which is written anew with all renders so far whenever some are added. -/

namespace DesignExport

/-- A list of renders for another program to make. -/
abbrev Manifest := List (RasterRequest Float)

namespace Manifest

def requestJson (request : RasterRequest Float) : Json :=
  .record
    [("guid", .text request.guid), ("path", .text request.path),
      ("scale", .number (.fraction request.scale))]

def write (manifest : Manifest) : String :=
  Json.pretty (.record [("renders", .list (manifest.map requestJson))])

end Manifest

namespace Store

variable {m : Type → Type} [Monad m]

/-- Writes a file of an export below a folder. -/
def writeFile (store : Store m) (folder name source : String) : m (Except ExportError Unit) := do
  let path := Path.join folder name
  match ← store.makeFolderOf path with
  | .error message => pure (.error (.notWritten path message))
  | .ok _ =>
      match ← store.write path source with
      | .error message => pure (.error (.notWritten path message))
      | .ok _ => pure (.ok ())

/-- Writes a manifest. -/
def writeManifest (store : Store m) (path : String) (manifest : Manifest) :
    m (Except ExportError Unit) := do
  match ← store.makeFolderOf path with
  | .error message => pure (.error (.storage message))
  | .ok _ =>
      match ← store.write path manifest.write with
      | .error message => pure (.error (.notRendered message))
      | .ok _ => pure (.ok ())

/-- The host that exports to a folder and keeps a manifest of all renders. -/
def host (store : Store m) (folder manifestPath : String) :
    Host (StateT Manifest m) Float where
  write name source := store.writeFile folder name source
  render requests := do
    let manifest := (← get) ++ requests
    set manifest
    store.writeManifest (Path.join folder manifestPath) manifest

end Store

end DesignExport
