import Vetting.Proofs.Verdict.Evaluation

namespace Vetting

theorem Outcome.mapM_eq_error_iff_head? {α β ε : Type} {f : α → Except ε β} {faults : α → List ε}
    (h : ∀ x e, f x = .error e ↔ (faults x).head? = some e) {xs : List α} {e : ε} :
    xs.mapM f = .error e ↔ (xs.flatMap faults).head? = some e := by
  induction xs with
  | nil => simp [pure, Except.pure]
  | cons x xs ih =>
    rw [List.mapM_cons, bind_eq_error, List.flatMap_cons, List.head?_append]
    cases hx : f x with
    | error e' =>
      have hfault := (h x e').mp hx
      simp [hfault]
    | ok y =>
      have hnone : (faults x).head? = none := by
        rw [Option.eq_none_iff_forall_ne_some]
        intro e' he'
        rw [(h x e').mpr he'] at hx
        cases hx
      rw [hnone, Option.none_or, ← ih]
      simp [bind_eq_error, pure, Except.pure]

-- The faults of checks on a value of a field. A check is known by its position, from `start` on.
def faultsFrom (fieldId : String) (value : Json) (start : Nat) (checks : List Check) :
    List EvaluationError :=
  (checks.zipIdx start).filterMap fun (check, index) =>
    match check.test value with
    | .ok _ => none
    | .error cause => some (.check fieldId index cause)

section

variable {fieldId : String} {value : Json} {start : Nat} {check : Check} {checks : List Check}

theorem faultsFrom_cons_ok {passed : Bool} (h : check.test value = .ok passed) :
    faultsFrom fieldId value start (check :: checks) =
      faultsFrom fieldId value (start + 1) checks := by
  simp [faultsFrom, h]

theorem faultsFrom_cons_error {cause : CheckError} (h : check.test value = .error cause) :
    faultsFrom fieldId value start (check :: checks) =
      .check fieldId start cause :: faultsFrom fieldId value (start + 1) checks := by
  simp [faultsFrom, h]

theorem failedFrom_eq_error_iff_head? {error : EvaluationError} :
    failedFrom fieldId value start checks = .error error ↔
      (faultsFrom fieldId value start checks).head? = some error := by
  induction checks generalizing start with
  | nil => simp [failedFrom, faultsFrom]
  | cons check rest ih =>
    cases h : check.test value with
    | error cause => simp [failedFrom, h, faultsFrom_cons_error h]
    | ok passed =>
      -- The answer decides what is listed as failed, but not whether the rest is reached.
      rw [faultsFrom_cons_ok h, ← ih]
      simp [failedFrom, h, Outcome.bind_eq_error, pure, Except.pure]

theorem mem_faultsFrom {error : EvaluationError} :
    error ∈ faultsFrom fieldId value 0 checks ↔
      ∃ index check cause, checks[index]? = some check ∧ check.test value = .error cause ∧
        error = .check fieldId index cause := by
  unfold faultsFrom
  simp only [List.mem_filterMap, Prod.exists, List.mk_mem_zipIdx_iff_getElem?]
  constructor
  · rintro ⟨check, index, there, h⟩
    split at h
    · cases h
    · next cause failed => exact ⟨index, check, cause, there, failed, (Option.some.inj h).symm⟩
  · rintro ⟨index, check, cause, there, failed, rfl⟩
    exact ⟨check, index, there, by rw [failed]⟩

end

namespace FieldChecks

def faults (value? : String → Option Json) (field : FieldChecks) : List EvaluationError :=
  match value? field.fieldId with
  | some value => faultsFrom field.fieldId value 0 field.checks
  | none => [.missingField field.fieldId]

theorem mem_faults {value? : String → Option Json} {field : FieldChecks}
    {error : EvaluationError} :
    error ∈ field.faults value? ↔
      (value? field.fieldId = none ∧ error = .missingField field.fieldId) ∨
        ∃ value index check cause, value? field.fieldId = some value ∧
          field.checks[index]? = some check ∧ check.test value = .error cause ∧
          error = .check field.fieldId index cause := by
  unfold faults
  cases value? field.fieldId with
  | none => simp
  | some value => simp [mem_faultsFrom]

-- The verdict on the value that is looked up for a field.
def judgeOn (value? : String → Option Json) (field : FieldChecks) :
    Except EvaluationError FieldVerdict :=
  match value? field.fieldId with
  | some value => field.evaluate value
  | none => .error (.missingField field.fieldId)

theorem judgeOn_eq_error_iff_head? (value? : String → Option Json) (field : FieldChecks)
    (error : EvaluationError) :
    field.judgeOn value? = .error error ↔ (field.faults value?).head? = some error := by
  unfold judgeOn faults
  cases value? field.fieldId with
  | none => simp
  | some value =>
    rw [← failedFrom_eq_error_iff_head?]
    simp [FieldChecks.evaluate, Outcome.bind_eq_error, pure, Except.pure]

-- A verdict that comes of applying every check of a field to the value of the field.
def Applied (value? : String → Option Json) (field : FieldChecks) (verdict : FieldVerdict) :
    Prop :=
  ∃ value answers, value? field.fieldId = some value ∧
    List.Forall₂ (fun check passed => check.test value = .ok passed) field.checks answers ∧
    verdict = ⟨field.fieldId, answers.all id, answers.length, positionsOfNo 0 answers⟩

end FieldChecks

namespace Checklist

-- All that stands in the way of a verdict, in the order of the fields and of their checks.
def faults (value? : String → Option Json) (checklist : Checklist) : List EvaluationError :=
  checklist.fields.flatMap (FieldChecks.faults value?)

variable {checklist : Checklist} {value? : String → Option Json}

theorem evaluateOn_eq_error_iff {error : EvaluationError} :
    checklist.evaluateOn value? = .error error ↔
      checklist.fields.mapM (FieldChecks.judgeOn value?) = .error error := by
  refine Outcome.bind_eq_error.trans ?_
  simp only [pure, Except.pure, reduceCtorEq, and_false, exists_false, or_false]
  rfl

theorem evaluateOn_eq_error_iff_head? {error : EvaluationError} :
    checklist.evaluateOn value? = .error error ↔
      (checklist.faults value?).head? = some error := by
  rw [evaluateOn_eq_error_iff,
    Outcome.mapM_eq_error_iff_head? (FieldChecks.judgeOn_eq_error_iff_head? value?), faults]

theorem exists_evaluateOn_eq_error_iff :
    (∃ error, checklist.evaluateOn value? = .error error) ↔
      ∃ field ∈ checklist.fields, value? field.fieldId = none ∨
        ∃ value, value? field.fieldId = some value ∧
          ∃ check ∈ field.checks, ∃ cause, check.test value = .error cause := by
  have hfaults : (∃ error, checklist.evaluateOn value? = .error error) ↔
      ∃ field ∈ checklist.fields, ∃ error, error ∈ field.faults value? := by
    simp only [evaluateOn_eq_error_iff_head?, ← Option.isSome_iff_exists, List.isSome_head?]
    simp only [faults, ← List.isEmpty_eq_false_iff_exists_mem]
    simp
  simp only [hfaults, FieldChecks.mem_faults]
  constructor
  · rintro ⟨field, member, error, ⟨missing, -⟩ | ⟨value, index, check, cause, there, hcheck, h, -⟩⟩
    · exact ⟨field, member, .inl missing⟩
    · exact ⟨field, member, .inr ⟨value, there, check, List.mem_of_getElem? hcheck, cause, h⟩⟩
  · rintro ⟨field, member, missing | ⟨value, there, check, hcheck, cause, h⟩⟩
    · exact ⟨field, member, _, .inl ⟨missing, rfl⟩⟩
    · obtain ⟨index, hindex⟩ := List.mem_iff_getElem?.mp hcheck
      exact ⟨field, member, _, .inr ⟨value, index, check, cause, there, hindex, h, rfl⟩⟩

-- An error stands whatever the verdicts on the fields before it and the answers of the checks
-- before it are, and whatever follows.
theorem evaluateOn_eq_error_of_split {before after : List FieldChecks} {field : FieldChecks}
    (split : checklist.fields = before ++ field :: after)
    (fine : ∀ earlier ∈ before, ∃ verdict, earlier.judgeOn value? = .ok verdict) :
    (value? field.fieldId = none →
      checklist.evaluateOn value? = .error (.missingField field.fieldId)) ∧
    ∀ value checks check rest cause, value? field.fieldId = some value →
      field.checks = checks ++ check :: rest →
      (∀ earlier ∈ checks, ∃ passed, earlier.test value = .ok passed) →
      check.test value = .error cause →
      checklist.evaluateOn value? = .error (.check field.fieldId checks.length cause) := by
  have hstop {error : EvaluationError} (h : field.judgeOn value? = .error error) :
      checklist.evaluateOn value? = .error error :=
    evaluateOn_eq_error_iff.mpr
      (Outcome.mapM_eq_error.mpr ⟨before, field, after, split, fine, h⟩)
  constructor
  · intro missing
    apply hstop
    rw [FieldChecks.judgeOn, missing]
  · intro value checks check rest cause there hchecks answered failed
    apply hstop
    rw [FieldChecks.judgeOn, there]
    exact FieldChecks.evaluate_eq_error.mpr
      ⟨checks, check, rest, cause, hchecks, answered, failed, rfl⟩

theorem applied_of_evaluateOn {verdict : Verdict} (h : checklist.evaluateOn value? = .ok verdict) :
    List.Forall₂ (FieldChecks.Applied value?) checklist.fields verdict.fields := by
  obtain ⟨verdicts, hverdicts, h⟩ := Outcome.bind_eq_ok.mp h
  cases h
  refine (Outcome.mapM_eq_ok.mp hverdicts).imp ?_
  intro field verdict judged
  split at judged
  · next value hvalue =>
    obtain ⟨answers, answered, hverdict⟩ := FieldChecks.evaluate_eq_ok judged
    exact ⟨value, answers, hvalue, answered, hverdict⟩
  · cases judged

-- An evaluation fails if a field has no value or a check no answer, and only then, with the first
-- fault. Neither verdicts and answers that come earlier nor anything that comes later has a part in
-- it. An evaluation that does not fail has applied every check.
theorem evaluateOn_selects (checklist : Checklist) (value? : String → Option Json) :
    ((∃ error, checklist.evaluateOn value? = .error error) ↔
      ∃ field ∈ checklist.fields, value? field.fieldId = none ∨
        ∃ value, value? field.fieldId = some value ∧
          ∃ check ∈ field.checks, ∃ cause, check.test value = .error cause) ∧
    (∀ error, checklist.evaluateOn value? = .error error ↔
      (checklist.faults value?).head? = some error) ∧
    (∀ before field after, checklist.fields = before ++ field :: after →
      (∀ earlier ∈ before, ∃ verdict, earlier.judgeOn value? = .ok verdict) →
      (value? field.fieldId = none →
        checklist.evaluateOn value? = .error (.missingField field.fieldId)) ∧
      ∀ value checks check rest cause, value? field.fieldId = some value →
        field.checks = checks ++ check :: rest →
        (∀ earlier ∈ checks, ∃ passed, earlier.test value = .ok passed) →
        check.test value = .error cause →
        checklist.evaluateOn value? = .error (.check field.fieldId checks.length cause)) ∧
    ∀ verdict, checklist.evaluateOn value? = .ok verdict →
      List.Forall₂ (FieldChecks.Applied value?) checklist.fields verdict.fields :=
  ⟨exists_evaluateOn_eq_error_iff, fun _ => evaluateOn_eq_error_iff_head?,
    fun _ _ _ => evaluateOn_eq_error_of_split, fun _ => applied_of_evaluateOn⟩

-- The first field fails a check and passes the next one, and only the third one has no answer; the
-- second field is missing.
def maskedChecks : Checklist :=
  ⟨[⟨"title", [.size { min := some (.ofInt 9) }, .required, .range {} true]⟩, ⟨"ghost", []⟩]⟩

theorem evaluateOn_selects_masked :
    let value? (id : String) : Option Json := if id = "title" then some (.string "draft") else none
    maskedChecks.faults value? =
      [.check "title" 2 (.wrongKind "range" "number" "string"), .missingField "ghost"] ∧
    maskedChecks.evaluateOn value? =
      .error (.check "title" 2 (.wrongKind "range" "number" "string")) := by
  intro value?
  have faults : maskedChecks.faults value? =
      [.check "title" 2 (.wrongKind "range" "number" "string"), .missingField "ghost"] := by
    rfl
  obtain ⟨-, selects, -⟩ := evaluateOn_selects maskedChecks value?
  exact ⟨faults, (selects _).mpr (by rw [faults]; rfl)⟩

end Checklist

end Vetting
