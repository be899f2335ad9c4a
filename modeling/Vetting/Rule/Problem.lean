import Vetting.Issue
import Vetting.Pattern.Basic
import Vetting.Rule.Basic

namespace Vetting

inductive Problem.Cause where
  | malformed (kind : RuleKind) (error : Json.ShapeError)
  | badFlags (error : Pattern.FlagError)
  | badPattern (fault : Pattern.SyntaxFault)
  -- A kind that is not checked on fields of a type; this does not stop an evaluation.
  | unrecognized (key : String) (type : FieldType)
deriving Inhabited

structure Problem where
  fieldId : String
  -- Where the declaration stands in the content type.
  path : String
  cause : Problem.Cause
deriving Inhabited

def Problem.ofCompileError (fieldId path : String) : Pattern.CompileError → Problem
  | .flags error => ⟨fieldId, path, .badFlags error⟩
  | .pattern fault => ⟨fieldId, path, .badPattern fault⟩

namespace Problem.Cause

def severity : Cause → Severity
  | unrecognized .. => .warning
  | _ => .error

def code : Cause → String
  | malformed .. => "malformed_validation"
  | badFlags _ => "invalid_flags"
  | badPattern _ => "invalid_pattern"
  | unrecognized .. => "unrecognized_validation"

def message (describe : Pattern.SyntaxFault → String) : Cause → String
  | malformed kind error => s!"invalid {kind.key} configuration: {error.message}"
  | badFlags error => error.message
  | badPattern fault => describe fault
  | unrecognized key type => s!"'{key}' is not checked for {type.name} fields"

def hint : Cause → Option String
  | malformed kind _ => some kind.hint
  | badFlags _ => some "supported flags are i, m, s, u, g and y"
  | badPattern _ => none
  | unrecognized .. => none

end Problem.Cause

namespace Problem

def isError (problem : Problem) : Bool := problem.cause.severity == .error

-- The issue that tells of a problem, with the words of `describe` for a pattern that is refused.
def issueWith (describe : Pattern.SyntaxFault → String) (problem : Problem) : Issue where
  severity := problem.cause.severity
  code := problem.cause.code
  path := problem.path
  message := s!"field '{problem.fieldId}': {problem.cause.message describe}"
  hint := problem.cause.hint

def reportWith (describe : Pattern.SyntaxFault → String) (problems : List Problem) : Report :=
  Report.ofIssues (problems.map (issueWith describe))

end Problem

-- What reading declarations turns up, in order: results and problems.
abbrev Findings (α : Type) := List (Except Problem α)

namespace Findings

def results {α : Type} (findings : Findings α) : List α :=
  findings.filterMap fun
    | .ok result => some result
    | .error _ => none

def problems {α : Type} (findings : Findings α) : List Problem :=
  findings.filterMap fun
    | .ok _ => none
    | .error problem => some problem

end Findings

end Vetting
