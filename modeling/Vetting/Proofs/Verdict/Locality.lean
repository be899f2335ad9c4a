import Vetting.Proofs.Entry.Values
import Vetting.Proofs.Rule.Diagnosis
import Vetting.Proofs.Verdict.Evaluation

namespace Vetting

namespace Field

variable {options : Options} {entry : Entry} {field : Field} {verdict : FieldVerdict} {value : Json}

-- The field compiles, and each of its checks passes on a value.
def PassesOn (options : Options) (field : Field) (value : Json) : Prop :=
  ∃ checks, field.compile options = .ok checks ∧ ∀ check ∈ checks, check.test value = .ok true

-- Each check of the field passes on the value that an entry has for it.
def PassesIn (options : Options) (entry : Entry) (field : Field) : Prop :=
  ∃ value, entry.value? field.id = some value ∧ field.PassesOn options value

theorem Sound.passesOn_iff (sound : field.Sound options) :
    field.PassesOn options value ↔ ∀ check ∈ field.checks options, check.test value = .ok true := by
  simp only [PassesOn, compile_eq_ok_iff]
  constructor
  · rintro ⟨_, ⟨_, rfl⟩, passes⟩
    exact passes
  · intro passes
    exact ⟨_, ⟨sound, rfl⟩, passes⟩

theorem Judged.fieldId_eq (judged : field.Judged options entry verdict) :
    verdict.fieldId = field.id := by
  obtain ⟨value, _, hverdict⟩ := judged
  obtain ⟨answers, _, rfl⟩ := FieldChecks.evaluate_eq_ok hverdict
  rfl

theorem Judged.valid_iff (judged : field.Judged options entry verdict)
    (sound : field.Sound options) : verdict.valid = true ↔ field.PassesIn options entry := by
  obtain ⟨value, hvalue, hverdict⟩ := judged
  obtain ⟨answers, answered, rfl⟩ := FieldChecks.evaluate_eq_ok hverdict
  have passes : (∀ check ∈ field.checks options, check.test value = .ok true) ↔
      ∀ answer ∈ answers, answer = true := by
    apply Outcome.forall_mem_iff answered
    intro check answer h
    rw [h, Except.ok.injEq]
  simp only [PassesIn, hvalue, Option.some.injEq, exists_eq_left', sound.passesOn_iff, passes,
    List.all_eq_true, id_eq]

theorem passesIn_congr {other : Entry} (h : other.value? field.id = entry.value? field.id) :
    field.PassesIn options other ↔ field.PassesIn options entry := by
  simp only [PassesIn, h]

end Field

namespace Entry

variable {options : Options} {entry next : Entry} {id : String} {value : Json}

-- Two verdicts on one field, before and after another one was set.
theorem judged_unique {field : Field} {old new : FieldVerdict}
    (same : next.value? field.id = entry.value? field.id)
    (before : field.Judged options entry old) (after : field.Judged options next new) :
    new = old := by
  obtain ⟨value, hvalue, hold⟩ := before
  obtain ⟨value', hvalue', hnew⟩ := after
  rw [same, hvalue] at hvalue'
  cases hvalue'
  rw [hold] at hnew
  exact (Except.ok.inj hnew).symm

theorem judge_set? (h : entry.set? id value = some next) {checks : FieldChecks}
    (differs : checks.fieldId ≠ id) : checks.judge next = checks.judge entry := by
  unfold FieldChecks.judge
  rw [value?_set? h, if_neg differs]

-- Only the field that was set can fail where there was a verdict before.
theorem eq_check_of_judge_set? (h : entry.set? id value = some next) {checks : FieldChecks}
    {verdict : FieldVerdict} {error : EvaluationError} (fine : checks.judge entry = .ok verdict)
    (failed : checks.judge next = .error error) : ∃ index cause, error = .check id index cause := by
  have isSet : checks.fieldId = id := by
    by_contra differs
    rw [judge_set? h differs, fine] at failed
    cases failed
  have read : next.value? checks.fieldId = some value := by rw [value?_set? h, if_pos isSet]
  rcases FieldChecks.judge_eq_error failed with ⟨missing, _⟩ | ⟨index, cause, rfl⟩
  · rw [read] at missing
    cases missing
  · exact ⟨index, cause, by rw [isSet]⟩

-- What a verdict says of the fields that satisfy a condition.
theorem valid_iff_passesIn {verdict : Verdict} (h : entry.evaluate options = .ok verdict)
    (P : String → Prop) :
    (∀ judged ∈ verdict.fields, P judged.fieldId → judged.valid = true) ↔
      ∀ field ∈ entry.contentType.fields, P field.id → field.PassesIn options entry := by
  obtain ⟨sound, verdicts, judged, rfl⟩ := evaluate_eq_ok h
  have paired := (List.forall₂_and_left _ _).mpr ⟨sound, judged⟩
  apply Iff.symm
  apply Outcome.forall_mem_iff paired
  rintro field found ⟨hsound, hjudged⟩
  rw [hjudged.fieldId_eq, hjudged.valid_iff hsound]

theorem valid_iff_forall {verdict : Verdict} (h : entry.evaluate options = .ok verdict) :
    verdict.valid = true ↔ ∀ judged ∈ verdict.fields, judged.valid = true := by
  obtain ⟨_, verdicts, _, rfl⟩ := evaluate_eq_ok h
  exact List.all_eq_true

theorem fieldIds_evaluate {verdict : Verdict} (h : entry.evaluate options = .ok verdict) :
    verdict.fields.map (·.fieldId) = entry.contentType.fieldIds := by
  obtain ⟨_, verdicts, judged, rfl⟩ := evaluate_eq_ok h
  have ids := judged.imp fun _ _ hjudged => hjudged.fieldId_eq.symm
  rw [← List.forall₂_map_right_iff, ← List.forall₂_map_left_iff, List.forall₂_eq_eq_eq] at ids
  exact ids.symm

theorem passesIn_set? (h : entry.set? id value = some next) (field : Field) :
    field.PassesIn options next ↔
      (field.id ≠ id → field.PassesIn options entry) ∧
        (field.id = id → field.PassesOn options value) := by
  by_cases hid : field.id = id
  · subst hid
    have read : next.value? field.id = some value := by rw [value?_set? h, if_pos rfl]
    simp [Field.PassesIn, read]
  · have read : next.value? field.id = entry.value? field.id := by rw [value?_set? h, if_neg hid]
    simp [Field.passesIn_congr read, hid]

theorem valid_set? (h : entry.set? id value = some next) {before after : Verdict}
    (hbefore : entry.evaluate options = .ok before) (hafter : next.evaluate options = .ok after) :
    after.valid = true ↔
      (∀ old ∈ before.fields, old.fieldId ≠ id → old.valid = true) ∧
        ∀ field ∈ entry.contentType.fields, field.id = id → field.PassesOn options value := by
  have passes := valid_iff_passesIn hafter fun _ => True
  simp only [forall_const, ← valid_iff_forall hafter, contentType_set? h, passesIn_set? h] at passes
  rw [passes, valid_iff_passesIn hbefore (· ≠ id)]
  exact forall₂_and

theorem verdicts_set? (h : entry.set? id value = some next) {before after : Verdict}
    (hbefore : entry.evaluate options = .ok before) (hafter : next.evaluate options = .ok after) :
    List.Forall₂ (fun old new => new.fieldId = old.fieldId ∧ (old.fieldId ≠ id → new = old))
      before.fields after.fields := by
  obtain ⟨_, olds, judgedBefore, rfl⟩ := evaluate_eq_ok hbefore
  obtain ⟨_, news, judgedAfter, rfl⟩ := evaluate_eq_ok hafter
  rw [contentType_set? h] at judgedAfter
  refine Outcome.forall₂_trans ?_ judgedBefore.flip judgedAfter
  intro old field new (hold : field.Judged options entry old) hnew
  rw [hold.fieldId_eq, hnew.fieldId_eq]
  refine ⟨rfl, fun differs => judged_unique ?_ hold hnew⟩
  rw [value?_set? h, if_neg differs]

-- The fields before the one that failed have verdicts as before, or the first of them that has none
-- is the one that was set.
theorem failure_set? (h : entry.set? id value = some next) {other : String} {index : Nat}
    {cause : CheckError} (differs : other ≠ id)
    (failed : entry.evaluate options = .error (.check other index cause)) :
    next.evaluate options = .error (.check other index cause) ∨
      ∃ index' cause', next.evaluate options = .error (.check id index' cause') := by
  simp only [evaluate_eq_error, contentType_set? h]
  rcases evaluate_eq_error.mp failed with ⟨_, _, h⟩ | ⟨checklist, warnings, compiled, failed⟩
  · cases h
  obtain ⟨before, checks, after, split, fine, failed⟩ := Checklist.evaluate_eq_error.mp failed
  have isOther : checks.fieldId = other := by
    rcases FieldChecks.judge_eq_error failed with ⟨_, h⟩ | ⟨_, _, h⟩ <;> cases h
    rfl
  cases early : before.mapM (FieldChecks.judge next) with
  | ok verdicts =>
    left
    right
    refine ⟨checklist, warnings, compiled, Checklist.evaluate_eq_error.mpr ?_⟩
    refine ⟨before, checks, after, split, Outcome.exists_mapM_eq_ok_iff.mp ⟨_, early⟩, ?_⟩
    rw [judge_set? h (by rwa [isOther]), failed]
  | error error =>
    right
    obtain ⟨first, culprit, rest, rfl, fine', failed'⟩ := Outcome.mapM_eq_error.mp early
    obtain ⟨verdict, judged⟩ := fine culprit (List.mem_append_right _ List.mem_cons_self)
    obtain ⟨index', cause', rfl⟩ := eq_check_of_judge_set? h judged failed'
    refine ⟨index', cause', .inr ⟨checklist, warnings, compiled, ?_⟩⟩
    refine Checklist.evaluate_eq_error.mpr
      ⟨first, culprit, rest ++ checks :: after, ?_, fine', failed'⟩
    rw [split, List.append_assoc, List.cons_append]

-- Setting a field leaves the verdicts on all others as they are. The entry is valid then if they
-- were, and if the field passes on its new value. An evaluation that failed on another field goes
-- on to do so, unless it fails on the field that was set.
theorem evaluate_local (h : entry.set? id value = some next) :
    (∀ before after, entry.evaluate options = .ok before → next.evaluate options = .ok after →
      before.fields.map (·.fieldId) = entry.contentType.fieldIds ∧
      List.Forall₂ (fun old new => new.fieldId = old.fieldId ∧ (old.fieldId ≠ id → new = old))
        before.fields after.fields ∧
      (after.valid = true ↔
        (∀ old ∈ before.fields, old.fieldId ≠ id → old.valid = true) ∧
          ∀ field ∈ entry.contentType.fields, field.id = id → field.PassesOn options value)) ∧
    ∀ other index cause, other ≠ id →
      entry.evaluate options = .error (.check other index cause) →
      next.evaluate options = .error (.check other index cause) ∨
        ∃ index' cause', next.evaluate options = .error (.check id index' cause') := by
  constructor
  · intro before after hbefore hafter
    exact ⟨fieldIds_evaluate hbefore, verdicts_set? h hbefore hafter, valid_set? h hbefore hafter⟩
  · intro other index cause differs failed
    exact failure_set? h differs failed

-- An entry of age twenty, where the age is declared twice around the title.
def aged (title : Json) : Entry :=
  let fields : List Field := [
    { id := "age"
      type := .integer
      validations := [⟨[("range", .ofPairs [("min", .ofNat 18)])]⟩] },
    { id := "title"
      type := .text
      required := true
      validations := [⟨[("size", .ofPairs [("max", .ofNat 5)])]⟩] },
    { id := "age"
      type := .float
      validations := [⟨[("range", .ofPairs [("max", .ofNat 65)])]⟩] }]
  .ofValues { fields } [("title", title), ("age", .ofNat 20)]

set_option maxRecDepth 2000 in
theorem evaluate_local_aged :
    let before : Verdict :=
      ⟨true, [⟨"age", true, 1, []⟩, ⟨"title", true, 2, []⟩, ⟨"age", true, 1, []⟩]⟩
    let after : Verdict :=
      ⟨false, [⟨"age", true, 1, []⟩, ⟨"title", true, 2, []⟩, ⟨"age", false, 1, [0]⟩]⟩
    let mismatch : EvaluationError := .check "title" 0 (.wrongKind "size" "string" "number")
    (∃ next, (aged (.string "draft")).set? "age" (.ofNat 70) = some next ∧
      (aged (.string "draft")).evaluate {} = .ok before ∧ next.evaluate {} = .ok after ∧
      List.Forall₂ (fun old new => new.fieldId = old.fieldId ∧ (old.fieldId ≠ "age" → new = old))
        before.fields after.fields ∧
      ¬∀ field ∈ (aged (.string "draft")).contentType.fields,
        field.id = "age" → field.PassesOn {} (.ofNat 70)) ∧
    ∃ next, (aged (.ofNat 1)).set? "age" (.ofNat 70) = some next ∧
      (aged (.ofNat 1)).evaluate {} = .error mismatch ∧
      (next.evaluate {} = .error mismatch ∨
        ∃ index cause, next.evaluate {} = .error (.check "age" index cause)) := by
  intro before after mismatch
  constructor
  · have hbefore : (aged (.string "draft")).evaluate {} = .ok before := rfl
    have changed : (aged (.string "draft")).set? "age" (.ofNat 70) = some _ := rfl
    obtain ⟨_, same, valid⟩ := (evaluate_local changed).1 before after hbefore rfl
    refine ⟨_, changed, hbefore, rfl, same, fun passes => ?_⟩
    cases valid.mpr ⟨by decide, passes⟩
  · have failed : (aged (.ofNat 1)).evaluate {} = .error mismatch := rfl
    have changed : (aged (.ofNat 1)).set? "age" (.ofNat 70) = some _ := rfl
    exact ⟨_, changed, failed, (evaluate_local changed).2 "title" 0 _ (by decide) failed⟩

end Entry

end Vetting
