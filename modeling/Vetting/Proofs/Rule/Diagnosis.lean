import Vetting.Proofs.Json.Members
import Vetting.Proofs.Rule.Compilation

namespace Vetting

namespace Report

theorem foldl_push (issues : List Issue) (report : Report) :
    issues.foldl push report =
      { errors := report.errors ++ issues.filter (·.severity == .error)
        warnings := report.warnings ++ issues.filter (·.severity == .warning) } := by
  induction issues generalizing report with
  | nil => simp
  | cons issue rest ih =>
    rw [List.foldl_cons, ih]
    unfold push
    cases h : issue.severity <;> simp [h]

theorem errors_ofIssues (issues : List Issue) :
    (ofIssues issues).errors = issues.filter (·.severity == .error) := by
  rw [ofIssues, foldl_push]
  rfl

theorem warnings_ofIssues (issues : List Issue) :
    (ofIssues issues).warnings = issues.filter (·.severity == .warning) := by
  rw [ofIssues, foldl_push]
  rfl

-- Issues of one severity are all kept, or all left out, where issues are sorted by severity.
theorem filter_severity {issues : List Issue} {severity : Severity}
    (all : ∀ issue ∈ issues, issue.severity = severity) (wanted : Severity) :
    issues.filter (·.severity == wanted) = if severity = wanted then issues else [] := by
  by_cases hwanted : severity = wanted
  · rw [if_pos hwanted, List.filter_eq_self]
    intro issue h
    rw [all issue h, hwanted, beq_self_eq_true]
  · rw [if_neg hwanted, List.filter_eq_nil_iff]
    intro issue h
    rw [all issue h, beq_iff_eq]
    exact hwanted

end Report

namespace Problem

variable (describe : Pattern.SyntaxFault → String)

theorem errors_reportWith (problems : List Problem) :
    (reportWith describe problems).errors =
      (problems.filter isError).map (issueWith describe) := by
  unfold reportWith
  rw [Report.errors_ofIssues, List.filter_map]
  rfl

theorem warnings_reportWith (problems : List Problem) :
    (reportWith describe problems).warnings =
      (problems.filter (!·.isError)).map (issueWith describe) := by
  have mild : (·.severity == .warning) ∘ issueWith describe = (!·.isError) := by
    funext problem
    change (problem.cause.severity == .warning) = !(problem.cause.severity == .error)
    cases problem.cause.severity <;> rfl
  unfold reportWith
  rw [Report.warnings_ofIssues, List.filter_map]
  exact congrArg (fun test => (problems.filter test).map (issueWith describe)) mild

theorem reportWith_eq (problems : List Problem) :
    reportWith describe problems =
      { errors := (problems.filter isError).map (issueWith describe)
        warnings := (problems.filter (!·.isError)).map (issueWith describe) } := by
  rw [← errors_reportWith, ← warnings_reportWith]

theorem reportWith_append (problems others : List Problem) :
    reportWith describe (problems ++ others) =
      reportWith describe problems ++ reportWith describe others := by
  rw [reportWith_eq, reportWith_eq, reportWith_eq, List.filter_append, List.filter_append,
    List.map_append, List.map_append]
  rfl

end Problem

namespace Findings

variable {α β : Type}

@[simp] theorem problems_errors (keys : List β) (f : β → Problem) :
    problems (keys.map fun key => (.error (f key) : Except Problem α)) = keys.map f := by
  induction keys with
  | nil => rfl
  | cons key keys ih => simp [problems]

@[simp] theorem problems_oks (xs : List β) (f : β → α) :
    problems (xs.map fun x => (.ok (f x) : Except Problem α)) = [] := by
  simp [problems]

end Findings

namespace Field

variable (describe : Pattern.SyntaxFault → String)

-- An issue about the value under a key of a declaration.
def issueAt (field : Field) (index : Nat) (key : String) (severity : Severity)
    (code message : String) (hint : Option String) : Issue where
  severity
  code
  path := s!"/fields/{field.id}/validations/{index}/{key}"
  message := s!"field '{field.id}': {message}"
  hint

-- One error for each configuration of a declaration that is not read as a rule.
def malformed (field : Field) (declaration : Declaration) (index : Nat) : List Issue :=
  (field.configured declaration).filterMap fun (kind, config) =>
    match Rule.ofConfig kind config with
    | .ok _ => none
    | .error error =>
      some (field.issueAt index kind.key .error "malformed_validation"
        s!"invalid {kind.key} configuration: {error.message}" kind.hint)

-- One error for each pattern of a declaration whose flags or text do not compile. How a text is
-- refused is left to the words of the pattern engine.
def uncompiled (field : Field) (declaration : Declaration) (index : Nat) : List Issue :=
  (field.configured declaration).filterMap fun (kind, config) =>
    match Rule.ofConfig kind config with
    | .ok (.prohibitRegexp source) =>
      match Pattern.compile source with
      | .ok _ => none
      | .error (.flags error) =>
        some (field.issueAt index kind.key .error "invalid_flags" error.message
          "supported flags are i, m, s, u, g and y")
      | .error (.pattern fault) =>
        some (field.issueAt index kind.key .error "invalid_pattern" (describe fault) none)
    | _ => none

-- The declared keys that no check comes from, apart from the one of the message.
def ignoredKeys (field : Field) (declaration : Declaration) : List String :=
  declaration.members.keys.filter fun key =>
    key != "message" && !((RuleKind.checkedOn field.type).map RuleKind.key).contains key

def ignored (field : Field) (declaration : Declaration) (index : Nat) : List Issue :=
  (field.ignoredKeys declaration).map fun key =>
    field.issueAt index key .warning "unrecognized_validation"
      s!"'{key}' is not checked for {field.type.name} fields" none

-- The issues that declarations have, each with its index, from the first declaration on.
def eachDeclaration (field : Field) (issues : Declaration → Nat → List Issue) : List Issue :=
  field.validations.zipIdx.flatMap fun (declaration, index) => issues declaration index

-- Configurations that are malformed come before patterns that do not compile.
def expectedErrors (field : Field) : List Issue :=
  field.eachDeclaration field.malformed ++ field.eachDeclaration (field.uncompiled describe)

def expectedWarnings (field : Field) : List Issue := field.eachDeclaration field.ignored

theorem ignoredKeys_increasing {field : Field} {declaration : Declaration}
    (ordered : declaration.members.Ordered) : (field.ignoredKeys declaration).Pairwise (· < ·) := by
  have increasing : declaration.members.keys.Pairwise (· < ·) := List.pairwise_map.mpr ordered
  exact increasing.sublist List.filter_sublist

theorem issues_readDeclaration (field : Field) (declaration : Declaration) (index : Nat) :
    (Findings.problems (field.readDeclaration index declaration)).map (Problem.issueWith describe) =
      field.malformed declaration index ++ field.ignored declaration index := by
  rw [readDeclaration, RuleKind.ofFieldType_eq, Findings.problems_append, List.map_append]
  congr 1
  · simp only [malformed, configured, Findings.problems, List.filterMap_filterMap,
      List.map_filterMap, Option.bind_map, Option.map_bind]
    congr 1
    funext kind
    cases declaration.get? kind.key with
    | none => rfl
    | some config =>
      simp only [Option.bind_some, Function.comp_apply, readRule]
      cases Rule.ofConfig kind config with
      | ok rule => rfl
      | error error => rfl
  · have keys : (declaration.kinds.filter fun key =>
        !((RuleKind.checkedOn field.type).map RuleKind.key).contains key) =
          field.ignoredKeys declaration := by
      rw [Declaration.kinds, List.filter_filter, ignoredKeys]
      apply List.filter_congr
      intro key _
      exact Bool.and_comm _ _
    rw [Findings.problems_errors, keys, List.map_map]
    rfl

theorem issues_compiled (options : Options) (field : Field) (declaration : Declaration)
    (index : Nat) :
    (Findings.problems ((Findings.results (field.readDeclaration index declaration)).map
      (·.compile options field.id))).map (Problem.issueWith describe) =
        field.uncompiled describe declaration index := by
  rw [results_readDeclaration]
  simp only [uncompiled, Findings.problems, Findings.results, List.filterMap_map,
    List.filterMap_filterMap, List.map_filterMap]
  congr 1
  apply funext
  rintro ⟨kind, config⟩
  simp only [Function.comp_apply, readRule]
  cases Rule.ofConfig kind config with
  | error error => rfl
  | ok rule =>
    cases rule with
    | prohibitRegexp source =>
      simp only [Option.map_some, Option.bind_some, DeclaredRule.compile, Rule.compile]
      cases Pattern.compile source with
      | ok pattern => rfl
      | error error => cases error <;> rfl
    | _ => rfl

-- That a value is required always compiles.
theorem problems_sharedRules (options : Options) (field : Field) :
    Findings.problems (field.sharedRules.map fun rule =>
      DeclaredRule.compile options field.id ⟨field.requiredPath, rule⟩) = [] := by
  unfold sharedRules
  split <;> rfl

-- The issues of a field in the order in which they are found.
theorem issues_problems (options : Options) (field : Field) :
    (field.problems options).map (Problem.issueWith describe) =
      (field.eachDeclaration fun declaration index =>
        field.malformed declaration index ++ field.ignored declaration index) ++
      field.eachDeclaration (field.uncompiled describe) := by
  rw [problems, List.map_append]
  congr 1
  · rw [declarationProblems, readDeclarations, Findings.problems_append, Findings.problems_oks,
      List.append_nil, eachDeclaration, Findings.problems, List.filterMap_flatMap, List.map_flatMap]
    congr 1
    apply funext
    rintro ⟨declaration, index⟩
    exact issues_readDeclaration describe field declaration index
  · have declared : field.compileRules options =
        (field.validations.zipIdx.flatMap fun (declaration, index) =>
          (Findings.results (field.readDeclaration index declaration)).map
            (·.compile options field.id)) ++
        field.sharedRules.map fun rule =>
          DeclaredRule.compile options field.id ⟨field.requiredPath, rule⟩ := by
      rw [compileRules, declaredRules, readDeclarations, Findings.results_append,
        Findings.results_oks, List.map_append, Findings.results, List.filterMap_flatMap,
        List.map_flatMap, List.map_map]
      rfl
    rw [declared, Findings.problems_append, problems_sharedRules, List.append_nil,
      Findings.problems, List.filterMap_flatMap, List.map_flatMap, eachDeclaration]
    congr 1
    apply funext
    rintro ⟨declaration, index⟩
    exact issues_compiled describe options field declaration index

theorem filter_malformed (field : Field) (declaration : Declaration) (index : Nat)
    (wanted : Severity) :
    (field.malformed declaration index).filter (·.severity == wanted) =
      if .error = wanted then field.malformed declaration index else [] := by
  apply Report.filter_severity
  intro issue h
  obtain ⟨⟨kind, config⟩, _, h⟩ := List.mem_filterMap.mp h
  dsimp only at h
  split at h
  · cases h
  · cases h; rfl

theorem filter_uncompiled (field : Field) (declaration : Declaration) (index : Nat)
    (wanted : Severity) :
    (field.uncompiled describe declaration index).filter (·.severity == wanted) =
      if .error = wanted then field.uncompiled describe declaration index else [] := by
  apply Report.filter_severity
  intro issue h
  obtain ⟨⟨kind, config⟩, _, h⟩ := List.mem_filterMap.mp h
  dsimp only at h
  split at h
  · split at h
    · cases h
    · cases h; rfl
    · cases h; rfl
  · cases h

theorem filter_ignored (field : Field) (declaration : Declaration) (index : Nat)
    (wanted : Severity) :
    (field.ignored declaration index).filter (·.severity == wanted) =
      if .warning = wanted then field.ignored declaration index else [] := by
  apply Report.filter_severity
  intro issue h
  obtain ⟨key, _, rfl⟩ := List.mem_map.mp h
  rfl

theorem errors_problems (options : Options) (field : Field) :
    ((field.problems options).map (Problem.issueWith describe)).filter (·.severity == .error) =
      field.expectedErrors describe := by
  rw [issues_problems]
  simp [eachDeclaration, expectedErrors, List.filter_flatMap, filter_malformed, filter_uncompiled,
    filter_ignored]

theorem warnings_problems (options : Options) (field : Field) :
    ((field.problems options).map (Problem.issueWith describe)).filter (·.severity == .warning) =
      field.expectedWarnings := by
  rw [issues_problems]
  simp [eachDeclaration, expectedWarnings, List.filter_flatMap, filter_malformed,
    filter_uncompiled, filter_ignored]

theorem sound_iff (options : Options) (field : Field) :
    field.Sound options ↔ field.expectedErrors describe = [] := by
  rw [← errors_problems describe options, List.filter_eq_nil_iff, List.forall_mem_map]
  apply forall₂_congr
  intro problem _
  rw [Bool.not_eq_true]
  rfl

theorem compile_eq_ok_iff {options : Options} {field : Field} {checks : List Check} :
    field.compile options = .ok checks ↔ field.Sound options ∧ checks = field.checks options := by
  have sound : field.Sound options ↔ ¬(field.problems options).any Problem.isError = true := by
    simp [Sound]
  simp only [compile]
  split
  · rename_i failed
    simp [sound, failed]
  · rename_i clean
    simp [sound, clean, eq_comm]

end Field

namespace Checklist

variable (describe : Pattern.SyntaxFault → String)

-- What compiling reports, whether or not it ends with an error.
def reported (options : Options) (fields : List Field) : Report :=
  Problem.reportWith describe <|
    match compile options fields with
    | .error problems => problems
    | .ok (_, warnings) => warnings

theorem exists_compile_iff {options : Options} {fields : List Field} :
    (∃ compiled, compile options fields = .ok compiled) ↔
      ∀ field ∈ fields, field.Sound options := by
  have sound : (∀ field ∈ fields, field.Sound options) ↔
      ¬(fields.flatMap (Field.problems options)).any Problem.isError = true := by
    simp only [Field.Sound, List.any_eq_true, List.mem_flatMap, not_exists, not_and,
      Bool.not_eq_true]
    constructor
    · rintro clean problem ⟨field, hf, hp⟩
      exact clean field hf problem hp
    · intro clean field hf problem hp
      exact clean problem ⟨field, hf, hp⟩
  simp only [compile]
  split
  · rename_i failed
    simp [sound, failed]
  · rename_i clean
    simp [sound, clean]

theorem reported_eq (options : Options) (fields : List Field) :
    reported describe options fields =
      Problem.reportWith describe (fields.flatMap (Field.problems options)) := by
  unfold reported compile
  dsimp only
  split
  · rename_i problems h
    split at h <;> cases h
    rfl
  · rename_i checklist warnings h
    split at h <;> cases h
    rfl

theorem errors_reported (options : Options) (fields : List Field) :
    (reported describe options fields).errors =
      fields.flatMap (Field.expectedErrors describe) := by
  rw [reported_eq, Problem.reportWith, Report.errors_ofIssues, List.map_flatMap,
    List.filter_flatMap]
  congr 1
  funext field
  exact field.errors_problems describe options

theorem warnings_reported (options : Options) (fields : List Field) :
    (reported describe options fields).warnings = fields.flatMap Field.expectedWarnings := by
  rw [reported_eq, Problem.reportWith, Report.warnings_ofIssues, List.map_flatMap,
    List.filter_flatMap]
  congr 1
  funext field
  exact field.warnings_problems describe options

theorem exists_compile_iff_errors (options : Options) (fields : List Field) :
    (∃ compiled, compile options fields = .ok compiled) ↔
      (reported describe options fields).errors = [] := by
  rw [errors_reported, exists_compile_iff, List.flatMap_eq_nil_iff]
  apply forall₂_congr
  intro field _
  exact field.sound_iff describe options

-- Compiling reports the issues of the fields one after another, whatever the options are and
-- however patterns are refused. It succeeds if there are no errors, which is if every field
-- compiles by itself, and then yields the checks of the fields and the warnings. The members of a
-- declaration that was read are in order, and so are the warnings about their keys.
theorem compile_reports (options : Options) (fields : List Field) :
    (reported describe options fields).errors = fields.flatMap (Field.expectedErrors describe) ∧
    (reported describe options fields).warnings = fields.flatMap Field.expectedWarnings ∧
    (∀ field ∈ fields, ∀ declaration ∈ field.validations, declaration.members.Ordered →
      (field.ignoredKeys declaration).Pairwise (· < ·)) ∧
    ((∃ compiled, compile options fields = .ok compiled) ↔
      (reported describe options fields).errors = []) ∧
    ((∃ compiled, compile options fields = .ok compiled) ↔
      ∀ field ∈ fields, ∃ checks, field.compile options = .ok checks) ∧
    ∀ checklist warnings, compile options fields = .ok (checklist, warnings) →
      List.Forall₂ (fun field checks =>
          checks.fieldId = field.id ∧ field.compile options = .ok checks.checks)
        fields checklist.fields ∧
      Problem.reportWith describe warnings =
        { warnings := fields.flatMap Field.expectedWarnings } := by
  have errors := errors_reported describe options fields
  have warned := warnings_reported describe options fields
  have succeeds := exists_compile_iff_errors describe options fields
  refine ⟨errors, warned, ?_, succeeds, ?_, ?_⟩
  · intro field _ declaration _ ordered
    exact Field.ignoredKeys_increasing ordered
  · rw [exists_compile_iff]
    apply forall₂_congr
    intro field _
    simp only [Field.compile_eq_ok_iff]
    simp
  · intro checklist warnings h
    obtain ⟨hfields, sound⟩ := compile_eq_ok h
    constructor
    · rw [hfields, List.forall₂_map_right_iff, List.forall₂_same]
      intro field hf
      exact ⟨rfl, Field.compile_eq_ok_iff.mpr ⟨sound field hf, rfl⟩⟩
    · have told : reported describe options fields = Problem.reportWith describe warnings := by
        rw [reported, h]
      rw [told] at warned succeeds
      rw [← warned, ← succeeds.mp ⟨_, h⟩]

-- The malformed sizes of both declarations come before the flags of the first one.
example :
    let title : Field := {
      id := "title"
      type := .text
      validations := [
        ⟨[("prohibitRegexp", .ofPairs [("flags", .string "q"), ("pattern", .string "a")]),
          ("range", .null), ("size", .ofNat 5)]⟩,
        ⟨[("message", .null), ("size", .null)]⟩] }
    let report := reported (fun _ => "refused") {} [title]
    report.errors.map (fun issue => (issue.code, issue.path)) =
        [("malformed_validation", "/fields/title/validations/0/size"),
          ("malformed_validation", "/fields/title/validations/1/size"),
          ("invalid_flags", "/fields/title/validations/0/prohibitRegexp")] ∧
      report.warnings.map (·.path) = ["/fields/title/validations/0/range"] := by decide +kernel

end Checklist

end Vetting
