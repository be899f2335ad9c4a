import Vetting.Content.Basic
import Vetting.Rule.Problem

namespace Vetting

-- A rule and the place of its declaration.
structure DeclaredRule where
  path : String
  rule : Rule
deriving DecidableEq, Inhabited

namespace Field

def declarationPath (field : Field) (index : Nat) : String :=
  s!"/fields/{field.id}/validations/{index}"

def requiredPath (field : Field) : String := s!"/fields/{field.id}/required"

-- What the configuration of a kind at a path declares.
def readRule (field : Field) (path : String) (kind : RuleKind) (config : Json) :
    Except Problem DeclaredRule :=
  match Rule.ofConfig kind config with
  | .ok rule => .ok ⟨path, rule⟩
  | .error error => .error ⟨field.id, path, .malformed kind error⟩

-- What one declaration declares: its kinds in the order of checking, then a problem for each key
-- that is no kind for the field.
def readDeclaration (field : Field) (index : Nat) (declaration : Declaration) :
    Findings DeclaredRule :=
  let base := field.declarationPath index
  let kinds := RuleKind.ofFieldType field.type
  let rules := kinds.filterMap fun kind =>
    (declaration.get? kind.key).map (field.readRule s!"{base}/{kind.key}" kind)
  let unrecognized := declaration.kinds.filter fun key => !(kinds.map RuleKind.key).contains key
  rules ++ unrecognized.map fun key =>
    .error ⟨field.id, s!"{base}/{key}", .unrecognized key field.type⟩

-- The rules that do not depend on the type of the field.
def sharedRules (field : Field) : List Rule := if field.required then [.required] else []

def readDeclarations (field : Field) : Findings DeclaredRule :=
  (field.validations.zipIdx.flatMap fun (declaration, index) =>
    field.readDeclaration index declaration) ++
    field.sharedRules.map fun rule => .ok ⟨field.requiredPath, rule⟩

def declaredRules (field : Field) : List DeclaredRule := Findings.results field.readDeclarations

-- The rules of a field in the order in which they are checked.
def rules (field : Field) : List Rule := field.declaredRules.map (·.rule)

def declarationProblems (field : Field) : List Problem :=
  Findings.problems field.readDeclarations

end Field

end Vetting
