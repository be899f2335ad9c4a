namespace Vetting

inductive Severity where
  | error
  | warning
deriving DecidableEq, Repr, Inhabited

def Severity.name : Severity → String
  | error => "error"
  | warning => "warning"

structure Issue where
  severity : Severity
  code : String
  path : String
  message : String
  hint : Option String := none
deriving DecidableEq, Repr, Inhabited

structure Report where
  errors : List Issue := []
  warnings : List Issue := []
deriving DecidableEq, Repr, Inhabited

namespace Report

def isOk (report : Report) : Bool := report.errors.isEmpty

-- Adds an issue behind those of its severity.
def push (report : Report) (issue : Issue) : Report :=
  match issue.severity with
  | .error => { report with errors := report.errors ++ [issue] }
  | .warning => { report with warnings := report.warnings ++ [issue] }

def append (report other : Report) : Report :=
  { errors := report.errors ++ other.errors, warnings := report.warnings ++ other.warnings }

instance : Append Report := ⟨append⟩

def ofIssues (issues : List Issue) : Report := issues.foldl push {}

-- The counts, and the first error.
def summary (report : Report) : String :=
  let counts := s!"{report.errors.length} error(s), {report.warnings.length} warning(s)"
  match report.errors with
  | [] => counts
  | first :: _ => s!"{counts}; first: {first.code} at {first.path}: {first.message}"

end Report

end Vetting
