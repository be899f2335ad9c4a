import Vetting.Command.Run
import Vetting.Proofs.Rule.Diagnosis

namespace Vetting

namespace Command

variable (describe : Pattern.SyntaxFault → String)

-- The reports of the fields that do not compile, merged one after another.
def mergedReport (options : Options) (fields : List Field) : Report :=
  fields.foldl (fun merged field =>
    match field.compile options with
    | .ok _ => merged
    | .error problems => merged ++ Problem.reportWith describe problems) {}

-- The problems that the command collects are those of the merged reports.
theorem report_ruleProblems (options : Options) (fields : List Field) :
    Problem.reportWith describe (ruleProblems options fields) =
      mergedReport describe options fields := by
  induction fields using List.reverseRecOn with
  | nil => rfl
  | append_singleton fields field ih =>
    rw [mergedReport, List.foldl_append, ← mergedReport, ← ih, ruleProblems, List.flatMap_append,
      ← ruleProblems, List.flatMap_singleton, List.foldl_cons, List.foldl_nil]
    cases field.compile options with
    | ok checks => rw [List.append_nil]
    | error problems => rw [Problem.reportWith_append]

-- A field that compiles has warnings at most, so that leaving out its problems drops no error.
theorem filter_ruleProblems (options : Options) (fields : List Field) :
    (ruleProblems options fields).filter Problem.isError =
      (fields.flatMap (Field.problems options)).filter Problem.isError := by
  rw [ruleProblems, List.filter_flatMap, List.filter_flatMap]
  congr 1
  funext field
  rw [Field.compile]
  split
  · next h =>
    split at h
    · cases h
    · next clean =>
      simpa [List.filter_eq_nil_iff] using clean
  · next h =>
    split at h
    · cases h
      rfl
    · cases h

theorem errors_mergedReport (options : Options) (fields : List Field) :
    (mergedReport describe options fields).errors =
      (Checklist.reported describe options fields).errors := by
  rw [← report_ruleProblems, Checklist.reported_eq, Problem.errors_reportWith,
    Problem.errors_reportWith, filter_ruleProblems]

-- The lines that list some rules.
def ruleLines (rules : List Rule) : List String :=
  if rules.isEmpty then ["  (no checks)"] else rules.map fun rule => s!"  - {rule.text}"

-- The lines about a field list the rules that some checks were made from, one for each check and in
-- their order, between the heading and what is ignored.
def Lists (options : Options) (field : Field) (checks : List Check) : Prop :=
  List.Forall₂ (fun rule check => rule.compile options = .ok check) field.rules checks ∧
    ∃ heading ignored, fieldLines field = heading :: ruleLines field.rules ++ ignored ∧
      ∀ line ∈ ignored, ∃ path : String, line = s!"  ~ ignored {path}"

theorem lists_of_compile {options : Options} {field : Field} {checks : List Check}
    (h : field.compile options = .ok checks) : Lists options field checks := by
  obtain ⟨sound, rfl⟩ := Field.compile_eq_ok_iff.mp h
  refine ⟨sound.forall₂_rules, ?_⟩
  rw [fieldLines, List.isEmpty_map]
  refine ⟨_, _, rfl, fun line hline => ?_⟩
  obtain ⟨problem, _, rfl⟩ := List.mem_map.mp hline
  exact ⟨problem.path, rfl⟩

theorem run_rules {environment : Environment} {path : String} {contentType : ContentType}
    (h : environment.contentType path = .ok contentType) (options : Options) :
    let merged := mergedReport environment.describe options contentType.fields
    run environment options (.rules path) =
      { stdout := contentType.fields.flatMap fieldLines
        stderr := merged.errors.flatMap issueLines
        result :=
          if merged.isOk then .ok true
          else .error (.declarations (ruleProblems options contentType.fields)) } := by
  intro merged
  have told : Problem.reportWith environment.describe (ruleProblems options contentType.fields) =
      merged := report_ruleProblems environment.describe options contentType.fields
  have failed : (ruleProblems options contentType.fields).any Problem.isError = !merged.isOk := by
    rw [← told, Report.isOk, Problem.errors_reportWith, List.isEmpty_map]
    rw [Bool.eq_iff_iff]
    simp
  change Outcome.ofExcept (runRules environment options path) = _
  unfold runRules
  rw [h]
  simp only [bind, Except.bind, pure, Except.pure, Outcome.ofExcept, failed, told]
  cases merged.isOk <;> rfl

-- The reports of the fields, merged, have the errors of compiling all fields at once, however
-- patterns are refused. The command writes them to the error stream, and ends well if there are
-- none, which is if the fields compile. What it lists for a field that compiles are the rules of
-- the field's checks.
theorem rules_agree_with_compilation (options : Options) (contentType : ContentType) :
    let merged := mergedReport describe options contentType.fields
    let compiles := ∃ compiled, Checklist.compile options contentType.fields = .ok compiled
    merged.errors = (Checklist.reported describe options contentType.fields).errors ∧
    (merged.isOk = true ↔ compiles) ∧
    (∀ field ∈ contentType.fields, ∀ checks, field.compile options = .ok checks →
      Lists options field checks) ∧
    ∀ environment path, environment.describe = describe →
      environment.contentType path = .ok contentType →
      let outcome := run environment options (.rules path)
      outcome.stdout = contentType.fields.flatMap fieldLines ∧
      outcome.stderr = merged.errors.flatMap issueLines ∧
      (outcome.result = .ok true ↔ compiles) ∧
      (outcome.result = .ok true ∨
        ∃ problems, outcome.result = .error (.declarations problems) ∧
          Problem.reportWith describe problems = merged) := by
  intro merged compiles
  have errors := errors_mergedReport describe options contentType.fields
  have succeeds : merged.isOk = true ↔ compiles := by
    rw [Report.isOk, List.isEmpty_iff, errors]
    exact (Checklist.exists_compile_iff_errors describe options contentType.fields).symm
  refine ⟨errors, succeeds, fun field _ checks h => lists_of_compile h, ?_⟩
  rintro environment path rfl h outcome
  have runs : outcome = _ := run_rules h options
  rw [runs]
  refine ⟨rfl, rfl, ?_, ?_⟩
  · rw [← succeeds]
    cases merged.isOk <;> simp
  · by_cases hok : merged.isOk = true
    · exact .inl (if_pos hok)
    · exact .inr ⟨ruleProblems options contentType.fields, if_neg hok, report_ruleProblems ..⟩

-- The second field has an error in each of its declarations, the first one only a warning, which is
-- not merged.
example :
    let title : Field := {
      id := "title"
      type := .text
      required := true
      validations := [⟨[("range", .null), ("size", .ofPairs [("max", .ofNat 3)])]⟩] }
    let slug : Field := {
      id := "slug"
      type := .symbol
      validations := [
        ⟨[("prohibitRegexp", .ofPairs [("pattern", .string "(")]), ("range", .null)]⟩,
        ⟨[("size", .ofNat 5)]⟩] }
    let merged := mergedReport (fun _ => "refused") {} [title, slug]
    merged.errors.map (fun issue => (issue.code, issue.path)) =
        [("malformed_validation", "/fields/slug/validations/1/size"),
          ("invalid_pattern", "/fields/slug/validations/0/prohibitRegexp")] ∧
      merged.warnings.map (·.path) = ["/fields/slug/validations/0/range"] ∧
      fieldLines title = ["title (Text, required)", "  - size <= 3", "  - required",
        "  ~ ignored /fields/title/validations/0/range"] := by decide +kernel

end Command

end Vetting
