import Vetting.Proofs.Rule.Diagnosis
import Vetting.Proofs.Verdict.Evaluation

namespace Vetting

namespace Declaration

-- The members under some keys, and no others.
def only (keys : List String) (declaration : Declaration) : Declaration where
  members := declaration.members.filter fun member => keys.contains member.1

theorem get?_only {keys : List String} {key : String} (h : key ∈ keys) (declaration : Declaration) :
    (declaration.only keys).get? key = declaration.get? key :=
  Json.Members.get?_filter (by simpa using h) declaration.members

theorem mem_of_mem_kinds_only {keys : List String} {key : String} {declaration : Declaration}
    (h : key ∈ (declaration.only keys).kinds) : key ∈ keys := by
  obtain ⟨member, hm, rfl⟩ := List.mem_map.mp (List.mem_filter.mp h).1
  simpa using (List.mem_filter.mp hm).2

end Declaration

-- The field without the keys of its declarations that no check comes from. Every declaration stays
-- in its place, even if nothing is left of it.
def Field.stripped (field : Field) : Field :=
  let keys := (RuleKind.checkedOn field.type).map RuleKind.key
  { field with validations := field.validations.map (·.only keys) }

@[simp] theorem Field.stripped_id (field : Field) : field.stripped.id = field.id := rfl

@[simp] theorem Field.stripped_type (field : Field) : field.stripped.type = field.type := rfl

def ContentType.stripped (contentType : ContentType) : ContentType :=
  { contentType with fields := contentType.fields.map Field.stripped }

namespace Findings

variable {α : Type}

-- The findings but for the warnings.
def serious (findings : Findings α) : Findings α :=
  findings.filter fun
    | .ok _ => true
    | .error problem => problem.isError

@[simp] theorem serious_append (a b : Findings α) : serious (a ++ b) = serious a ++ serious b :=
  List.filter_append ..

theorem results_serious (findings : Findings α) :
    results (serious findings) = results findings := by
  induction findings with
  | nil => rfl
  | cons finding rest ih =>
    cases finding with
    | ok result => simpa [serious, results] using ih
    | error problem => cases h : problem.isError <;> simpa [serious, results, h] using ih

theorem problems_serious (findings : Findings α) :
    problems (serious findings) = (problems findings).filter Problem.isError := by
  induction findings with
  | nil => rfl
  | cons finding rest ih =>
    cases finding with
    | ok result => simpa [serious, problems] using ih
    | error problem => cases h : problem.isError <;> simpa [serious, problems, h] using ih

theorem serious_eq_self {findings : Findings α}
    (h : ∀ problem, .error problem ∈ findings → problem.isError = true) :
    serious findings = findings := by
  unfold serious
  rw [List.filter_eq_self]
  intro finding hf
  cases finding with
  | ok result => rfl
  | error problem => exact h problem hf

theorem serious_eq_nil {findings : Findings α}
    (h : ∀ finding ∈ findings, ∃ problem, finding = .error problem ∧ problem.isError = false) :
    serious findings = [] := by
  unfold serious
  rw [List.filter_eq_nil_iff]
  intro finding hf
  obtain ⟨problem, rfl, harmless⟩ := h finding hf
  simp [harmless]

end Findings

namespace Field

variable {options : Options} {field : Field}

-- The same rules are read at the same paths. The keys that there were warnings about are gone.
theorem readDeclaration_stripped (index : Nat) (declaration : Declaration) :
    field.stripped.readDeclaration index
        (declaration.only ((RuleKind.checkedOn field.type).map RuleKind.key)) =
      Findings.serious (field.readDeclaration index declaration) := by
  simp only [readDeclaration, RuleKind.ofFieldType_eq, Findings.serious_append, stripped_id,
    stripped_type]
  congr 1
  · rw [Findings.serious_eq_self]
    · apply List.filterMap_congr
      intro kind hk
      rw [Declaration.get?_only (List.mem_map_of_mem hk)]
      rfl
    · intro problem hp
      obtain ⟨kind, _, hp⟩ := List.mem_filterMap.mp hp
      obtain ⟨config, _, hp⟩ := Option.map_eq_some_iff.mp hp
      exact isError_of_readRule hp
  · rw [Findings.serious_eq_nil, List.map_eq_nil_iff, List.filter_eq_nil_iff]
    · intro key hkey
      have kept := Declaration.mem_of_mem_kinds_only hkey
      simpa using kept
    · intro finding hf
      obtain ⟨key, _, rfl⟩ := List.mem_map.mp hf
      exact ⟨_, rfl, rfl⟩

theorem readDeclarations_stripped (field : Field) :
    field.stripped.readDeclarations = Findings.serious field.readDeclarations := by
  have shared : Findings.serious (field.sharedRules.map fun rule =>
      (.ok ⟨field.requiredPath, rule⟩ : Except Problem DeclaredRule)) = _ :=
    Findings.serious_eq_self (by simp)
  rw [readDeclarations, readDeclarations, Findings.serious_append, shared]
  congr 1
  rw [Findings.serious, List.filter_flatMap, stripped, List.zipIdx_map, List.flatMap_map]
  congr 1
  apply funext
  rintro ⟨declaration, index⟩
  exact field.readDeclaration_stripped index declaration

theorem compileRules_stripped (options : Options) (field : Field) :
    field.stripped.compileRules options = field.compileRules options := by
  unfold compileRules declaredRules
  rw [readDeclarations_stripped, Findings.results_serious, stripped_id]

theorem isError_of_compileRules {problem : Problem}
    (h : .error problem ∈ field.compileRules options) : problem.isError = true := by
  obtain ⟨declared, _, h⟩ := List.mem_map.mp h
  obtain ⟨error, _, rfl⟩ := Outcome.mapError_eq_error.mp h
  exact Problem.isError_ofCompileError ..

theorem checks_stripped (options : Options) (field : Field) :
    field.stripped.checks options = field.checks options := by
  rw [checks, checks, compileRules_stripped]

theorem problems_stripped (options : Options) (field : Field) :
    field.stripped.problems options = (field.problems options).filter Problem.isError := by
  have fatal : Findings.serious (field.compileRules options) = field.compileRules options :=
    Findings.serious_eq_self fun _ h => isError_of_compileRules h
  rw [problems, problems, List.filter_append, declarationProblems, declarationProblems,
    readDeclarations_stripped, Findings.problems_serious, compileRules_stripped]
  congr 1
  rw [← Findings.problems_serious, fatal]

end Field

namespace Problem

theorem reportWith_errors (describe : Pattern.SyntaxFault → String) (problems : List Problem) :
    reportWith describe (problems.filter isError) =
      { errors := (reportWith describe problems).errors } := by
  have errors : (reportWith describe (problems.filter isError)).errors =
      (reportWith describe problems).errors := by
    rw [errors_reportWith, errors_reportWith, List.filter_filter]
    simp only [Bool.and_self]
  have warnings : (reportWith describe (problems.filter isError)).warnings = [] := by
    rw [warnings_reportWith, List.filter_filter]
    simp only [Bool.not_and_self, List.filter_false, List.map_nil]
  rw [← errors, ← warnings]

end Problem

namespace Checklist

theorem problems_stripped (options : Options) (fields : List Field) :
    (fields.map Field.stripped).flatMap (Field.problems options) =
      (fields.flatMap (Field.problems options)).filter Problem.isError := by
  rw [List.flatMap_map, List.filter_flatMap]
  congr 1
  funext field
  exact field.problems_stripped options

-- Compiling the stripped fields ends in the same way, but for the warnings.
theorem compile_stripped (options : Options) (fields : List Field) :
    compile options (fields.map Field.stripped) =
      match compile options fields with
      | .ok (checklist, _) => .ok (checklist, [])
      | .error problems => .error (problems.filter Problem.isError) := by
  unfold compile
  rw [problems_stripped, List.map_map]
  dsimp only
  generalize fields.flatMap (Field.problems options) = problems
  have same : (problems.filter Problem.isError).any Problem.isError =
      problems.any Problem.isError := by
    simp [List.any_filter]
  rw [same]
  by_cases failed : problems.any Problem.isError = true
  · rw [if_pos failed, if_pos failed]
  · have none : problems.filter Problem.isError = [] := by
      simpa [List.filter_eq_nil_iff] using failed
    rw [if_neg failed, if_neg failed, none]
    congr 4
    funext field
    rw [Function.comp_apply, Field.stripped_id, Field.checks_stripped]

theorem reported_stripped (describe : Pattern.SyntaxFault → String) (options : Options)
    (fields : List Field) :
    reported describe options (fields.map Field.stripped) =
      { errors := (reported describe options fields).errors } := by
  rw [reported_eq, reported_eq, problems_stripped, Problem.reportWith_errors]

end Checklist

-- Entries with the same values, one of a content type and one of the stripped one.
theorem Entry.evaluate_stripped {options : Options} {entry other : Entry}
    (compiles : ∃ compiled, Checklist.compile options entry.contentType.fields = .ok compiled)
    (stripped : other.contentType = entry.contentType.stripped)
    (same : ∀ id, other.value? id = entry.value? id) :
    other.evaluate options = entry.evaluate options := by
  obtain ⟨⟨checklist, warnings⟩, compiled⟩ := compiles
  have compiled' : Checklist.compile options other.contentType.fields = .ok (checklist, []) := by
    rw [stripped, ContentType.stripped, Checklist.compile_stripped, compiled]
  rw [evaluate, evaluate, compiled, compiled']
  exact checklist.evaluate_congr same

-- Without the keys that are not checked, a content type has the same checks or the same errors, and
-- no warnings. Where it compiles, entries with the same values are judged alike, or fail alike.
theorem ContentType.alike_stripped (options : Options) (contentType : ContentType) :
    (Checklist.compile options contentType.stripped.fields =
      match Checklist.compile options contentType.fields with
      | .ok (checklist, _) => .ok (checklist, [])
      | .error problems => .error (problems.filter Problem.isError)) ∧
    (∀ describe, Checklist.reported describe options contentType.stripped.fields =
      { errors := (Checklist.reported describe options contentType.fields).errors }) ∧
    ((∃ compiled, Checklist.compile options contentType.fields = .ok compiled) →
      ∀ entry other : Entry, entry.contentType = contentType →
        other.contentType = contentType.stripped →
        (∀ id, other.value? id = entry.value? id) →
        other.evaluate options = entry.evaluate options) := by
  refine ⟨Checklist.compile_stripped options _,
    fun describe => Checklist.reported_stripped describe options _, ?_⟩
  rintro compiles entry other rfl stripped same
  exact Entry.evaluate_stripped compiles stripped same

-- A title that carries a message and a range of no sensible shape, which do not count, and an age
-- that carries a size. Nothing is left of the second declaration when the keys are stripped.
def ContentType.annotated : ContentType where
  fields := [
    { id := "title"
      type := .text
      required := true
      validations := [
        ⟨[("message", .string "Keep it short."), ("range", .null),
          ("size", .ofPairs [("max", .ofNat 3)])]⟩,
        ⟨[("message", .null)]⟩,
        ⟨[("prohibitRegexp", .ofPairs [("pattern", .string "^d")])]⟩] },
    { id := "age"
      type := .integer
      validations := [⟨[("range", .ofPairs [("min", .ofNat 18)]), ("size", .ofNat 5)]⟩] }]

set_option maxRecDepth 2000 in
theorem alike_stripped_annotated :
    let values : Json.Members := [("title", .string "draft"), ("age", .ofNat 20)]
    let entry := Entry.ofValues .annotated values
    let other := Entry.ofValues ContentType.annotated.stripped values
    let verdict : Verdict := ⟨false, [⟨"title", false, 3, [0, 1]⟩, ⟨"age", true, 1, []⟩]⟩
    (∃ compiled, Checklist.compile {} ContentType.annotated.fields = .ok compiled) ∧
      entry.contentType = .annotated ∧ other.contentType = ContentType.annotated.stripped ∧
      (∀ id, other.value? id = entry.value? id) ∧
      entry.evaluate {} = .ok verdict ∧ other.evaluate {} = .ok verdict := by
  intro values entry other verdict
  have compiles : ∃ compiled, Checklist.compile {} ContentType.annotated.fields = .ok compiled :=
    ⟨_, rfl⟩
  have same : ∀ id, other.value? id = entry.value? id := fun _ => rfl
  have judged : entry.evaluate {} = .ok verdict := rfl
  refine ⟨compiles, rfl, rfl, same, judged, ?_⟩
  rw [(ContentType.alike_stripped {} .annotated).2.2 compiles entry other rfl rfl same, judged]

end Vetting
