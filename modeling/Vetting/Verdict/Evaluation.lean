import Vetting.Content.Check
import Vetting.Entry.Basic
import Vetting.Rule.Checklist
import Vetting.Verdict.Basic

namespace Vetting

inductive EvaluationError where
  | declarations (problems : List Problem)
  | missingField (id : String)
  | check (fieldId : String) (index : Nat) (error : CheckError)
  | content (error : ContentError)
deriving Inhabited

namespace EvaluationError

def messageWith (describe : Pattern.SyntaxFault → String) : EvaluationError → String
  | declarations problems =>
    let report := Problem.reportWith describe problems
    s!"validation declarations could not be compiled: {report.summary}"
  | missingField id => s!"entry has no field '{id}'"
  | check fieldId index error => s!"field '{fieldId}', rule #{index}: {error.message}"
  | content error => s!"core error: {error.message}"

def message : EvaluationError → String := messageWith Pattern.SyntaxFault.message

end EvaluationError

-- The positions, from `index` on, of the checks that a value does not pass. The first check that
-- cannot be applied ends the evaluation.
def failedFrom (fieldId : String) (value : Json) (index : Nat) :
    List Check → Except EvaluationError (List Nat)
  | [] => .ok []
  | check :: rest =>
    match check.test value with
    | .error error => .error (.check fieldId index error)
    | .ok passed => do
      let failed ← failedFrom fieldId value (index + 1) rest
      return if passed then failed else index :: failed

-- The verdict on the value of a field. Without checks it is valid.
def FieldChecks.evaluate (field : FieldChecks) (value : Json) :
    Except EvaluationError FieldVerdict := do
  let failed ← failedFrom field.fieldId value 0 field.checks
  return ⟨field.fieldId, failed.isEmpty, field.checks.length, failed⟩

-- The verdict on values that are looked up by the ids of their fields.
def Checklist.evaluateOn (value? : String → Option Json) (checklist : Checklist) :
    Except EvaluationError Verdict := do
  let fields ← checklist.fields.mapM fun field =>
    match value? field.fieldId with
    | some value => field.evaluate value
    | none => .error (.missingField field.fieldId)
  return .ofFields fields

def Checklist.evaluate (checklist : Checklist) (entry : Entry) : Except EvaluationError Verdict :=
  checklist.evaluateOn entry.value?

-- Compiles the checks of an entry's content type afresh, and evaluates them on its values.
def Entry.evaluate (options : Options) (entry : Entry) : Except EvaluationError Verdict := do
  let (checklist, _) ← (Checklist.compile options entry.contentType.fields).mapError .declarations
  checklist.evaluate entry

end Vetting
