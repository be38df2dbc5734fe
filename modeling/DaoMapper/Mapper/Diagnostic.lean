import DaoMapper.Log.Event

-- Problems found in declarations, collected over a whole run.
namespace DaoMapper.Mapper

structure Diagnostic where
  isError : Bool
  location : String
  message : String
  deriving DecidableEq, Repr

namespace Diagnostic

def text (d : Diagnostic) : String := d.location ++ ": " ++ d.message

def severity (d : Diagnostic) : String := if d.isError then "error" else "warning"

def errors (report : List Diagnostic) : List Diagnostic := report.filter (·.isError)

def warnings (report : List Diagnostic) : List Diagnostic := report.filter (!·.isError)

end Diagnostic

-- A report with the record it leaves in the log; warnings leave none.
structure Report where
  diagnostics : List Diagnostic
  events : List Log.Event

namespace Report

def empty : Report := ⟨[], []⟩

def log (r : Report) (severity : Log.Severity) (logger message : String) : Report :=
  { r with events := r.events ++ [⟨severity, logger, message⟩] }

def error (r : Report) (location message : String) : Report :=
  { r.log .debug "daogen.compiler.diagnostics" ("Diagnostic at " ++ location ++ ": " ++ message) with
    diagnostics := r.diagnostics ++ [⟨true, location, message⟩] }

def warn (r : Report) (location message : String) : Report :=
  { r with diagnostics := r.diagnostics ++ [⟨false, location, message⟩] }

end Report

end DaoMapper.Mapper
