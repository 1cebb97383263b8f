set_option autoImplicit false

/-! The arguments of the program. A command has switches and names; switches for
all commands may stand in front of the command too. -/

namespace DesignExport

inductive Command where
  /-- Exports a document to a folder, or only the widget that a layer is in. -/
  | exportFiles (input folder : String) (layer : Option String)
  /-- Prints the code for a layer. -/
  | copyLayer (input layer : String)
  /-- Lists the widgets of a document. -/
  | listWidgets (input : String)
deriving DecidableEq

structure Arguments where
  command : Command
  /-- The file with settings that win over those of the document. -/
  configuration : Option String
  verbosity : Nat
deriving DecidableEq

/-- Why arguments are no command to run. -/
inductive UsageError where
  | help
  | version
  /-- Nothing at all is given. -/
  | nothingGiven
  | missingCommand
  | unknownCommand
  | unknownArgument
  | missingValue
  | unwantedValue
  | repeated
  | missingName
deriving DecidableEq

namespace Arguments

inductive Switch where
  | configuration
  | verbose
  | folder
  | layer
  | help
  | version
deriving DecidableEq

namespace Switch

def long : Switch → String
  | .configuration => "config"
  | .verbose => "verbose"
  | .folder => "out-dir"
  | .layer => "node"
  | .help => "help"
  | .version => "version"

def short : Switch → Char
  | .configuration => 'c'
  | .verbose => 'v'
  | .folder => 'o'
  | .layer => 'n'
  | .help => 'h'
  | .version => 'V'

def takesValue : Switch → Bool
  | .configuration | .folder | .layer => true
  | _ => false

end Switch

inductive CommandName where
  | exportFiles
  | copyLayer
  | listWidgets
deriving DecidableEq

def CommandName.word : CommandName → String
  | .exportFiles => "export"
  | .copyLayer => "copy"
  | .listWidgets => "widgets"

def CommandName.ofWord? (word : String) : Option CommandName :=
  [CommandName.exportFiles, .copyLayer, .listWidgets].find? (fun name => name.word = word)

/-- What a command accepts. -/
structure Form where
  switches : List Switch
  /-- How many names it must have. It has no more. -/
  names : Nat

def CommandName.form : CommandName → Form
  | .exportFiles => ⟨[.configuration, .verbose, .help, .folder, .layer], 1⟩
  | .copyLayer => ⟨[.configuration, .verbose, .help], 2⟩
  | .listWidgets => ⟨[.configuration, .verbose, .help], 1⟩

/-- What stands in front of a command. -/
def leadingForm : Form :=
  ⟨[.configuration, .verbose, .help, .version], 0⟩

/-- A switch that was begun. It is taken in when the next argument has been
recognised. -/
structure Pending where
  switch : Switch
  value : Option String
deriving DecidableEq

/-- What has been read of a command. -/
structure Found where
  values : List (Switch × String) := []
  verbosity : Nat := 0
  names : List String := []
  pending : Option Pending := none
deriving DecidableEq

namespace Found

def value? (found : Found) (switch : Switch) : Option String :=
  (found.values.find? (fun entry => entry.1 = switch)).map Prod.snd

/-- Whether the next argument is the value of a switch, unless it is a switch. -/
def awaitsValue (found : Found) : Bool :=
  match found.pending with
  | some ⟨_, none⟩ => true
  | _ => false

/-- Switches with a value stand at most once. -/
def take (found : Found) (switch : Switch) (value : String) : Except UsageError Found :=
  if (found.value? switch).isSome then .error .repeated
  else .ok { found with values := found.values ++ [(switch, value)] }

/-- Takes in the switch that was begun. -/
def settle (found : Found) : Except UsageError Found :=
  match found.pending with
  | none => .ok found
  | some ⟨_, none⟩ => .error .missingValue
  | some ⟨switch, some value⟩ => { found with pending := none }.take switch value

def start (found : Found) (switch : Switch) : Except UsageError Found := do
  let settled ← found.settle
  .ok { settled with pending := some ⟨switch, none⟩ }

def attach (found : Found) (switch : Switch) (value : String) : Except UsageError Found := do
  (← found.settle).take switch value

/-- The verbosity is a byte. -/
def raise (found : Found) : Found :=
  { found with verbosity := min 255 (found.verbosity + 1) }

/-- A switch without a value. -/
def flag (found : Found) (switch : Switch) : Except UsageError Found := do
  let settled ← found.settle
  match switch with
  | .help => .error .help
  | .version => .error .version
  | _ => .ok settled.raise

def addName (found : Found) (form : Form) (name : String) : Except UsageError Found :=
  if found.names.length < form.names then do
    let settled ← found.settle
    .ok { settled with names := settled.names ++ [name] }
  else .error .unknownArgument

def setValue (found : Found) (value : String) : Found :=
  { found with pending := found.pending.map (fun pending => { pending with value := some value }) }

/-- A long switch, with what stands behind an equals sign. -/
def long (found : Found) (form : Form) (word : List Char) : Except UsageError Found :=
  let name := String.ofList (word.takeWhile (· ≠ '='))
  match form.switches.find? (fun switch => switch.long = name), word.dropWhile (· ≠ '=') with
  | none, _ => .error .unknownArgument
  | some switch, [] => if switch.takesValue then found.start switch else found.flag switch
  | some switch, _ :: value =>
      if switch.takesValue then found.attach switch (String.ofList value) else .error .unwantedValue

/-- Short switches behind one dash. The first one that takes a value has the rest
of the word as its value. -/
def short (form : Form) : List Char → Found → Except UsageError Found
  | [], found => .ok found
  | letter :: rest, found =>
      match form.switches.find? (fun switch => switch.short = letter) with
      | none => .error .unknownArgument
      | some switch =>
          if switch.takesValue then
            match rest with
            | [] => found.start switch
            | '=' :: value => found.attach switch (String.ofList value)
            | value => found.attach switch (String.ofList value)
          else (found.flag switch).bind (short form rest)

end Found

/-- What an argument is by its form. Behind `--` all arguments are names. -/
inductive Shape where
  | separator
  | long (name : List Char)
  | short (letters : List Char)
  | plain

def Shape.of (argument : String) : Shape :=
  match argument.toList with
  | ['-', '-'] => .separator
  | '-' :: '-' :: name => .long name
  | '-' :: letter :: letters => .short (letter :: letters)
  | _ => .plain

/-- The arguments of a command. `onlyNames`: a separator has been met. -/
def readCommand (form : Form) : Bool → List String → Found → Except UsageError Found
  | _, [], found => found.settle
  | true, argument :: rest, found => do
      readCommand form true rest (← found.addName form argument)
  | false, argument :: rest, found =>
      match Shape.of argument with
      | .separator => readCommand form true rest found
      | .long name => do readCommand form false rest (← found.long form name)
      | .short letters => do readCommand form false rest (← Found.short form letters found)
      | .plain =>
          if found.awaitsValue then readCommand form false rest (found.setValue argument)
          else do readCommand form false rest (← found.addName form argument)

/-- Asking for help on a command, which must be known. -/
def helpOn : List String → UsageError
  | [] => .help
  | [word] => if (CommandName.ofWord? word).isSome || word = "help" then .help else .unknownCommand
  | _ => .unknownCommand

def usualFolder : String := "lib"

/-- The command with its names. -/
def commandOf (name : CommandName) (found : Found) : Except UsageError Command :=
  match name, found.names with
  | .exportFiles, [input] =>
      .ok (.exportFiles input ((found.value? .folder).getD usualFolder) (found.value? .layer))
  | .copyLayer, [input, layer] => .ok (.copyLayer input layer)
  | .listWidgets, [input] => .ok (.listWidgets input)
  | _, _ => .error .missingName

/-- Switches behind the command win over those in front of it. -/
def combine (leading found : Found) (command : Command) : Arguments where
  command := command
  configuration := (found.value? .configuration).or (leading.value? .configuration)
  verbosity := if found.verbosity = 0 then leading.verbosity else found.verbosity

def missing (leading : Found) : UsageError :=
  if leading.values.isEmpty && leading.verbosity = 0 then .nothingGiven else .missingCommand

/-- Reads a command and, after it, takes in what stands in front of it. -/
def finish (leading : Found) (name : CommandName) (words : List String) :
    Except UsageError Arguments := do
  let found ← readCommand name.form false words {}
  let command ← commandOf name found
  .ok (combine (← leading.settle) found command)

/-- Behind a separator there is no command. -/
def strayName (word : String) : UsageError :=
  if (CommandName.ofWord? word).isSome || word = "help" then .unknownArgument else .unknownCommand

/-- Reads arguments, given what has been read in front of the command. -/
def readLeading : Bool → List String → Found → Except UsageError Arguments
  | _, [], leading => do .error (missing (← leading.settle))
  | true, argument :: _, _ => .error (strayName argument)
  | false, argument :: rest, leading =>
      match Shape.of argument with
      | .separator => readLeading true rest leading
      | .long name => do readLeading false rest (← leading.long leadingForm name)
      | .short letters => do readLeading false rest (← Found.short leadingForm letters leading)
      | .plain =>
          if leading.awaitsValue then readLeading false rest (leading.setValue argument)
          else if argument = "help" then .error (helpOn rest)
          else
            match CommandName.ofWord? argument with
            | none => .error .unknownCommand
            | some name => finish leading name rest

/-- Reads the arguments of the program. -/
def ofWords (words : List String) : Except UsageError Arguments :=
  readLeading false words {}

end Arguments

end DesignExport
