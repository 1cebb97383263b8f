import DesignExport.CommandLine.Run
import DesignExport.CommandLine.Usage
set_option autoImplicit false

/-! The program. Its store is the file system; results go to standard output and
errors to standard error. -/

namespace DesignExport.Program

/-- The system's words with its number for them. -/
def numbered (code : UInt32) (details : String) : String :=
  details ++ " (os error " ++ toString code.toNat ++ ")"

/-- What the system says about a refusal. -/
def refusalText : IO.Error → String
  | .alreadyExists _ code details | .otherError code details | .resourceBusy code details
  | .resourceVanished code details | .unsupportedOperation code details
  | .hardwareFault code details | .unsatisfiedConstraints code details
  | .illegalOperation code details | .protocolError code details | .timeExpired code details
  | .interrupted _ code details | .noFileOrDirectory _ code details
  | .invalidArgument _ code details | .permissionDenied _ code details
  | .resourceExhausted _ code details | .inappropriateType _ code details
  | .noSuchThing _ code details => numbered code details
  | .unexpectedEof => "unexpected end of file"
  | .userError details => details

/-- A refusal of the system as a text for the user. -/
def attempt {β : Type} (step : IO β) : IO (Except String β) := do
  match ← step.toBaseIO with
  | .ok result => pure (.ok result)
  | .error error => pure (.error (refusalText error))

/-- Files have to be text. -/
def readText (path : String) : IO String := do
  let file ← IO.FS.Handle.mk path .read
  match String.fromUTF8? (← file.readBinToEnd) with
  | some text => pure text
  | none => throw (.userError "stream did not contain valid UTF-8")

/-- Makes the folder that a path is in, unless that is the working folder. -/
def makeParent (path : String) : IO Unit :=
  let folder := Path.parent path
  if folder.isEmpty then pure () else IO.FS.createDirAll folder

/-- The file system. -/
def fileSystem : Store IO where
  read path := attempt (readText path)
  write path content := attempt (IO.FS.writeFile path content)
  makeFolderOf path := attempt (makeParent path)

def report (message : String) : IO Unit :=
  IO.eprintln ("error: " ++ message)

/-- Runs the arguments. The result is the exit code. -/
def run (words : List String) : IO UInt32 := do
  match Arguments.ofWords words with
  | .error error =>
      if error.isAnswer then do
        IO.println error.message
        pure 0
      else do
        report error.message
        pure 2
  | .ok arguments =>
      match ← arguments.run fileSystem with
      | .ok text => do
          IO.print text
          pure 0
      | .error error => do
          report error.message
          pure 1

end DesignExport.Program

def main (words : List String) : IO UInt32 :=
  DesignExport.Program.run words
