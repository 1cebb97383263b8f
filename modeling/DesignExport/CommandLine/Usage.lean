import DesignExport.CommandLine.Arguments
set_option autoImplicit false

/-! What the program says about its arguments. -/

namespace DesignExport

def programName : String := "design-export"

def programVersion : String := "0.1.0"

def usageText : String :=
  String.intercalate "\n"
    [ "Compile design documents into Flutter widget code",
      "",
      "Usage: " ++ programName ++ " [-c FILE] [-v] COMMAND",
      "",
      "Commands:",
      "  export DOCUMENT [-o FOLDER] [-n LAYER]  Write widget files for every widget, or for one",
      "  copy DOCUMENT LAYER                     Print the code for one layer",
      "  widgets DOCUMENT                        List the widgets of a document",
      "",
      "Options:",
      "  -c, --config FILE     TOML file with settings that win over those of the document",
      "  -v, --verbose         More log output",
      "  -o, --out-dir FOLDER  Folder for the files (" ++ Arguments.usualFolder ++ ")",
      "  -n, --node LAYER      Export only the widget that the layer is in",
      "  -h, --help            Print help",
      "  -V, --version         Print version" ]

def UsageError.message : UsageError → String
  | .help | .nothingGiven => usageText
  | .version => programName ++ " " ++ programVersion
  | .missingCommand => "a command is missing"
  | .unknownCommand => "unknown command"
  | .unknownArgument => "unexpected argument"
  | .missingValue => "an option lacks its value"
  | .unwantedValue => "an option takes no value"
  | .repeated => "an option is given twice"
  | .missingName => "a required argument is missing"

/-- Help and version are what the user asked for, not mistakes. -/
def UsageError.isAnswer : UsageError → Bool
  | .help | .version => true
  | _ => false

end DesignExport
