import DesignExport.Document.Layer
set_option autoImplicit false

/-! What a compile has to say about a document. A layer that cannot be carried
over as it is does not stop a compile; it is noted, and the compile goes on. -/

namespace DesignExport

inductive Severity where
  | warning
  | error
deriving DecidableEq

def Severity.name : Severity → String
  | .warning => "warning"
  | .error => "error"

structure Diagnostic where
  severity : Severity
  message : String
  /-- The guid and the name of the layer it is about. -/
  layer : Option (String × String)
deriving DecidableEq

def Diagnostic.text (diagnostic : Diagnostic) : String :=
  let line := diagnostic.severity.name ++ ": " ++ diagnostic.message
  match diagnostic.layer with
  | some (_, name) => line ++ " ('" ++ name ++ "')"
  | none => line

/-- Diagnostics, first one first. -/
abbrev Log := List Diagnostic

namespace Log

variable {α : Type}

def note (severity : Severity) (message : String) (layer : Option (LayerInfo α)) (log : Log) : Log :=
  log ++ [⟨severity, message, layer.map (fun layer => (layer.guid, layer.name))⟩]

def warnings (log : Log) : Log :=
  log.filter (·.severity = .warning)

def errors (log : Log) : Log :=
  log.filter (·.severity = .error)

def hasErrors (log : Log) : Bool :=
  !log.errors.isEmpty

end Log

end DesignExport
