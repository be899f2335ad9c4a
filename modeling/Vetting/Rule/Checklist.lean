import Vetting.Rule.Check
import Vetting.Rule.Declared

namespace Vetting

structure FieldChecks where
  fieldId : String
  checks : List Check
deriving Inhabited

-- The checks of every field, in the order of the content type.
structure Checklist where
  fields : List FieldChecks
deriving Inhabited

-- A check, or what is wrong with its rule.
def DeclaredRule.compile (options : Options) (fieldId : String) (declared : DeclaredRule) :
    Except Problem Check :=
  (declared.rule.compile options).mapError (Problem.ofCompileError fieldId declared.path)

namespace Field

def compileRules (options : Options) (field : Field) : Findings Check :=
  field.declaredRules.map (·.compile options field.id)

def checks (options : Options) (field : Field) : List Check :=
  Findings.results (field.compileRules options)

-- The problems of a field: those of its declarations, then those of its patterns.
def problems (options : Options) (field : Field) : List Problem :=
  field.declarationProblems ++ Findings.problems (field.compileRules options)

-- The checks of a field, or its problems if one of them is an error.
def compile (options : Options) (field : Field) : Except (List Problem) (List Check) :=
  let problems := field.problems options
  if problems.any Problem.isError then .error problems else .ok (field.checks options)

end Field

namespace Checklist

def get? (checklist : Checklist) (fieldId : String) : Option (List Check) :=
  (checklist.fields.find? (·.fieldId == fieldId)).map (·.checks)

-- The number of checks on all fields.
def size (checklist : Checklist) : Nat :=
  checklist.fields.foldr (fun field size => field.checks.length + size) 0

-- The checks of all fields together with the warnings, or all problems if one of them is an error.
def compile (options : Options) (fields : List Field) :
    Except (List Problem) (Checklist × List Problem) :=
  let problems := fields.flatMap (Field.problems options)
  if problems.any Problem.isError then .error problems
  else .ok (⟨fields.map fun field => ⟨field.id, field.checks options⟩⟩, problems)

end Checklist

end Vetting
