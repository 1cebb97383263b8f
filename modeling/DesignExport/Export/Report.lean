import DesignExport.Diagnostic
set_option autoImplicit false

/-! What an export or a copy tells its user. -/

namespace DesignExport

structure Report where
  /-- One line that sums it up. -/
  message : String
  /-- Files that were written, in order. -/
  files : List String
  diagnostics : Log
  /-- Fonts that the generated code uses. -/
  fonts : List String
deriving DecidableEq

/-- The report line by line. -/
def Report.lines (report : Report) : List String :=
  [report.message] ++ report.files.map (fun file => "  wrote " ++ file) ++
    report.diagnostics.map (fun diagnostic => "  " ++ diagnostic.text) ++
    (if report.fonts.isEmpty then []
      else ["  fonts: " ++ String.intercalate ", " report.fonts])

end DesignExport
