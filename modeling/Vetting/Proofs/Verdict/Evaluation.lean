import Vetting.Proofs.Lists
import Vetting.Proofs.Rule.Compilation
import Vetting.Verdict.Evaluation

namespace Vetting

-- The positions, from `start` on, of the answers that are no.
def positionsOfNo (start : Nat) (answers : List Bool) : List Nat :=
  ((answers.zipIdx start).filter fun (passed, _) => !passed).map (·.2)

theorem positionsOfNo_cons (start : Nat) (passed : Bool) (answers : List Bool) :
    positionsOfNo start (passed :: answers) =
      if passed then positionsOfNo (start + 1) answers
      else start :: positionsOfNo (start + 1) answers := by
  cases passed <;> simp [positionsOfNo]

theorem positionsOfNo_isEmpty (start : Nat) (answers : List Bool) :
    (positionsOfNo start answers).isEmpty = answers.all id := by
  induction answers generalizing start with
  | nil => rfl
  | cons passed answers ih =>
    rw [positionsOfNo_cons]
    cases passed with
    | false => simp
    | true => simpa using ih (start + 1)

theorem mem_positionsOfNo {answers : List Bool} {position : Nat} :
    position ∈ positionsOfNo 0 answers ↔ answers[position]? = some false := by
  unfold positionsOfNo
  rw [mem_positions not]
  simp

theorem positionsOfNo_increasing (start : Nat) (answers : List Bool) :
    (positionsOfNo start answers).Pairwise (· < ·) :=
  positions_increasing not start answers

theorem failedFrom_eq_ok {fieldId : String} {value : Json} {index : Nat} {checks : List Check}
    {failed : List Nat} (h : failedFrom fieldId value index checks = .ok failed) :
    ∃ answers, List.Forall₂ (fun check passed => check.test value = .ok passed) checks answers ∧
      failed = positionsOfNo index answers := by
  induction checks generalizing index failed with
  | nil => exact ⟨[], .nil, (Except.ok.inj h).symm⟩
  | cons check rest ih =>
    simp only [failedFrom] at h
    split at h
    · cases h
    · rename_i passed tested
      obtain ⟨later, hlater, h⟩ := Outcome.bind_eq_ok.mp h
      obtain ⟨answers, hanswers, rfl⟩ := ih hlater
      refine ⟨passed :: answers, .cons tested hanswers, ?_⟩
      rw [positionsOfNo_cons]
      exact (Except.ok.inj h).symm

-- The scan fails at the first check without an answer, and names its position.
theorem failedFrom_eq_error {fieldId : String} {value : Json} {index : Nat} {checks : List Check}
    {error : EvaluationError} :
    failedFrom fieldId value index checks = .error error ↔
      ∃ before check after cause, checks = before ++ check :: after ∧
        (∀ earlier ∈ before, ∃ passed, earlier.test value = .ok passed) ∧
        check.test value = .error cause ∧
        error = .check fieldId (index + before.length) cause := by
  induction checks generalizing index with
  | nil => simp [failedFrom]
  | cons first rest ih =>
    unfold failedFrom
    constructor
    · intro h
      split at h
      · rename_i cause failed
        exact ⟨[], first, rest, cause, rfl, by simp, failed, (Except.error.inj h).symm⟩
      · rename_i passed answered
        rcases Outcome.bind_eq_error.mp h with h | ⟨failed, _, h⟩
        · obtain ⟨before, check, after, cause, rfl, fine, failed, rfl⟩ := ih.mp h
          refine ⟨first :: before, check, after, cause, rfl, ?_, failed, ?_⟩
          · exact List.forall_mem_cons.mpr ⟨⟨passed, answered⟩, fine⟩
          · rw [List.length_cons, Nat.add_assoc, Nat.add_comm 1]
        · cases h
    · rintro ⟨before, check, after, cause, split, fine, failed, rfl⟩
      cases before with
      | nil =>
        obtain ⟨rfl, rfl⟩ := List.cons.inj split
        rw [failed]
        rfl
      | cons other before =>
        obtain ⟨rfl, rfl⟩ := List.cons.inj split
        obtain ⟨⟨passed, answered⟩, fine⟩ := List.forall_mem_cons.mp fine
        have behind : index + (first :: before).length = index + 1 + before.length := by
          rw [List.length_cons]
          omega
        have later := ih.mpr ⟨before, check, after, cause, rfl, fine, failed, by rw [behind]⟩
        rw [answered]
        exact Outcome.bind_eq_error.mpr (.inl later)

theorem FieldChecks.evaluate_eq_ok {field : FieldChecks} {value : Json} {verdict : FieldVerdict}
    (h : field.evaluate value = .ok verdict) :
    ∃ answers,
      List.Forall₂ (fun check passed => check.test value = .ok passed) field.checks answers ∧
      verdict = ⟨field.fieldId, answers.all id, answers.length, positionsOfNo 0 answers⟩ := by
  obtain ⟨failed, hfailed, h⟩ := Outcome.bind_eq_ok.mp h
  obtain ⟨answers, hanswers, rfl⟩ := failedFrom_eq_ok hfailed
  refine ⟨answers, hanswers, ?_⟩
  rw [← positionsOfNo_isEmpty 0, ← hanswers.length_eq]
  exact (Except.ok.inj h).symm

theorem FieldChecks.evaluate_eq_error {field : FieldChecks} {value : Json}
    {error : EvaluationError} :
    field.evaluate value = .error error ↔
      ∃ before check after cause, field.checks = before ++ check :: after ∧
        (∀ earlier ∈ before, ∃ passed, earlier.test value = .ok passed) ∧
        check.test value = .error cause ∧ error = .check field.fieldId before.length cause := by
  have scan : failedFrom field.fieldId value 0 field.checks = .error error ↔ _ :=
    failedFrom_eq_error
  simp only [Nat.zero_add] at scan
  rw [← scan, evaluate, Outcome.bind_eq_error]
  simp [pure, Except.pure]

-- The verdict on the value that an entry has for a field.
def FieldChecks.judge (entry : Entry) (field : FieldChecks) : Except EvaluationError FieldVerdict :=
  match entry.value? field.fieldId with
  | some value => field.evaluate value
  | none => .error (.missingField field.fieldId)

theorem FieldChecks.judge_eq_error {entry : Entry} {field : FieldChecks} {error : EvaluationError}
    (h : field.judge entry = .error error) :
    (entry.value? field.fieldId = none ∧ error = .missingField field.fieldId) ∨
      ∃ index cause, error = .check field.fieldId index cause := by
  unfold judge at h
  split at h
  · obtain ⟨before, check, after, cause, _, _, _, rfl⟩ := evaluate_eq_error.mp h
    exact .inr ⟨_, _, rfl⟩
  · rename_i none
    exact .inl ⟨none, (Except.error.inj h).symm⟩

-- The first field that has no verdict ends an evaluation.
theorem Checklist.evaluate_eq_error {checklist : Checklist} {entry : Entry}
    {error : EvaluationError} :
    checklist.evaluate entry = .error error ↔
      ∃ before field after, checklist.fields = before ++ field :: after ∧
        (∀ earlier ∈ before, ∃ verdict, earlier.judge entry = .ok verdict) ∧
        field.judge entry = .error error := by
  rw [← Outcome.mapM_eq_error, evaluate, evaluateOn, Outcome.bind_eq_error]
  simp only [pure, Except.pure, reduceCtorEq, and_false, exists_false, or_false]
  rfl

-- The verdict on one field of a content type, without the checklist in between.
def Field.Judged (options : Options) (entry : Entry) (field : Field) (verdict : FieldVerdict) :
    Prop :=
  ∃ value, entry.value? field.id = some value ∧
    FieldChecks.evaluate ⟨field.id, field.checks options⟩ value = .ok verdict

-- An evaluation reads nothing of an entry but the values of its fields.
theorem Checklist.evaluate_congr {entry other : Entry}
    (h : ∀ id, entry.value? id = other.value? id) (checklist : Checklist) :
    checklist.evaluate entry = checklist.evaluate other := by
  simp only [evaluate, evaluateOn, h]

-- What an evaluation by a compiled checklist finds, in terms of the fields.
theorem Checklist.evaluate_eq_ok {options : Options} {entry : Entry} {checklist : Checklist}
    {warnings : List Problem} {verdict : Verdict}
    (hcompile : compile options entry.contentType.fields = .ok (checklist, warnings))
    (h : checklist.evaluate entry = .ok verdict) :
    (∀ field ∈ entry.contentType.fields, field.Sound options) ∧
      ∃ verdicts,
        List.Forall₂ (Field.Judged options entry) entry.contentType.fields verdicts ∧
        verdict = .ofFields verdicts := by
  obtain ⟨hfields, sound⟩ := compile_eq_ok hcompile
  obtain ⟨verdicts, hverdicts, h⟩ := Outcome.bind_eq_ok.mp h
  refine ⟨sound, verdicts, ?_, (Except.ok.inj h).symm⟩
  have judged := Outcome.mapM_eq_ok.mp hverdicts
  rw [hfields, List.forall₂_map_left_iff] at judged
  refine judged.imp ?_
  intro field verdict hfield
  split at hfield
  · rename_i value hvalue
    exact ⟨value, hvalue, hfield⟩
  · cases hfield

theorem Entry.evaluate_eq_ok {options : Options} {entry : Entry} {verdict : Verdict}
    (h : entry.evaluate options = .ok verdict) :
    (∀ field ∈ entry.contentType.fields, field.Sound options) ∧
      ∃ verdicts,
        List.Forall₂ (Field.Judged options entry) entry.contentType.fields verdicts ∧
        verdict = .ofFields verdicts := by
  obtain ⟨⟨checklist, warnings⟩, hcompile, h⟩ := Outcome.bind_eq_ok.mp h
  exact Checklist.evaluate_eq_ok (Outcome.mapError_eq_ok.mp hcompile) h

theorem Entry.evaluate_eq_error {options : Options} {entry : Entry} {error : EvaluationError} :
    entry.evaluate options = .error error ↔
      (∃ problems, Checklist.compile options entry.contentType.fields = .error problems ∧
        error = .declarations problems) ∨
      ∃ checklist warnings,
        Checklist.compile options entry.contentType.fields = .ok (checklist, warnings) ∧
          checklist.evaluate entry = .error error := by
  rw [evaluate, Outcome.bind_eq_error, Outcome.mapError_eq_error]
  simp only [Outcome.mapError_eq_ok, Prod.exists, @eq_comm _ error]

end Vetting
