import Vetting.Proofs.Verdict.Evaluation

namespace Vetting

open Outcome (Alike)

-- Options under which no check is stricter. Bounds of zero that did not count still do not, and
-- null counts as zero only where it did before.
structure Options.Relaxes (lenient strict : Options) : Prop where
  zeroBoundIsAbsent : strict.zeroBoundIsAbsent = true → lenient.zeroBoundIsAbsent = true
  nullRangeIsZero : lenient.nullRangeIsZero = true → strict.nullRangeIsZero = true

-- The verdict on a field under options that are no stricter: as many checks, and no new failures.
structure FieldVerdict.Eased (strict lenient : FieldVerdict) : Prop where
  fieldId : lenient.fieldId = strict.fieldId
  checked : lenient.checked = strict.checked
  failed : lenient.failed.Sublist strict.failed
  valid : strict.valid = true → lenient.valid = true

-- A check that answers no value more strictly than another, and has the same errors.
def Check.Eases (strict lenient : Check) : Prop :=
  ∀ value, Alike (fun passed passed' => passed = true → passed' = true) (strict.test value)
    (lenient.test value)

theorem Check.Eases.refl (check : Check) : check.Eases check :=
  fun _ => Alike.refl (fun _ => id) _

theorem Bounds.contains_withoutZero {bounds : Bounds} {value : Double}
    (h : bounds.contains value = true) : bounds.withoutZero.contains value = true := by
  unfold contains at h ⊢
  rw [Bool.and_eq_true, Option.all_eq_true, Option.all_eq_true] at h ⊢
  obtain ⟨hmin, hmax⟩ := h
  constructor
  · intro min kept
    exact hmin min (Option.filter_eq_some_iff.mp kept).1
  · intro max kept
    exact hmax max (Option.filter_eq_some_iff.mp kept).1

namespace Options.Relaxes

variable {strict lenient : Options} (relaxes : lenient.Relaxes strict)

include relaxes

theorem contains {declared : Bounds} {value : Double}
    (h : (strict.bounds declared).contains value = true) :
    (lenient.bounds declared).contains value = true := by
  unfold bounds at h ⊢
  by_cases hstrict : strict.zeroBoundIsAbsent = true
  · rw [if_pos hstrict] at h
    rwa [if_pos (relaxes.zeroBoundIsAbsent hstrict)]
  · rw [if_neg hstrict] at h
    split
    · exact Bounds.contains_withoutZero h
    · exact h

theorem eases_size (declared : Bounds) :
    Check.Eases (.size (strict.bounds declared)) (.size (lenient.bounds declared)) := by
  intro value
  cases value with
  | null => exact .ok id
  | string text => exact .ok relaxes.contains
  | array items => exact .ok relaxes.contains
  | bool _ => exact .error _
  | number _ => exact .error _
  | object _ => exact .error _

-- The options meet on null: it passes where it does not count as zero, whatever the bounds are.
theorem eases_range (declared : Bounds) :
    Check.Eases (.range (strict.bounds declared) strict.nullRangeIsZero)
      (.range (lenient.bounds declared) lenient.nullRangeIsZero) := by
  intro value
  cases value with
  | null =>
    apply Alike.ok
    intro passed
    by_cases zero : lenient.nullRangeIsZero = true
    · rw [relaxes.nullRangeIsZero zero, Bool.not_true, Bool.false_or] at passed
      rw [zero, Bool.not_true, Bool.false_or]
      exact relaxes.contains passed
    · rw [Bool.not_eq_true] at zero
      rw [zero, Bool.not_false, Bool.true_or]
  | number number => exact .ok relaxes.contains
  | string _ => exact .error _
  | array _ => exact .error _
  | bool _ => exact .error _
  | object _ => exact .error _

theorem compile_rule (rule : Rule) :
    Alike Check.Eases (rule.compile strict) (rule.compile lenient) := by
  cases rule with
  | unique => exact .ok (.refl _)
  | size declared => exact .ok (relaxes.eases_size declared)
  | prohibitRegexp source =>
    -- A pattern is compiled without regard to the options.
    exact Alike.refl Check.Eases.refl (Check.prohibited <$> Pattern.compile source)
  | range declared => exact .ok (relaxes.eases_range declared)
  | required => exact .ok (.refl _)

theorem compileRules (field : Field) :
    List.Forall₂ (Alike Check.Eases) (field.compileRules strict) (field.compileRules lenient) := by
  unfold Field.compileRules
  rw [List.forall₂_map_left_iff, List.forall₂_map_right_iff, List.forall₂_same]
  intro declared _
  exact (relaxes.compile_rule declared.rule).mapError _

end Options.Relaxes

namespace Findings

variable {α β : Type} {R : α → β → Prop} {xs : Findings α} {ys : Findings β}

theorem results_of_alike (h : List.Forall₂ (Alike R) xs ys) :
    List.Forall₂ R (results xs) (results ys) := by
  induction h with
  | nil => exact .nil
  | cons hx _ ih =>
    cases hx with
    | error problem => simpa [results] using ih
    | ok related => simpa [results] using ⟨related, ih⟩

theorem problems_of_alike (h : List.Forall₂ (Alike R) xs ys) : problems xs = problems ys := by
  induction h with
  | nil => rfl
  | cons hx _ ih =>
    cases hx with
    | error problem => simpa [problems] using ih
    | ok related => simpa [problems] using ih

end Findings

-- A failure on the way ends both scans at the same check, and a check that fails only under the
-- strict options leaves its position out of the second list.
theorem failedFrom_alike (fieldId : String) (value : Json) {checks checks' : List Check}
    (h : List.Forall₂ Check.Eases checks checks') (index : Nat) :
    Alike (fun failed failed' => failed'.Sublist failed)
      (failedFrom fieldId value index checks) (failedFrom fieldId value index checks') := by
  induction h generalizing index with
  | nil => exact .ok (.refl [])
  | cons eases _ ih =>
    unfold failedFrom
    rcases (eases value).cases with
      ⟨error, hstrict, hlenient⟩ | ⟨passed, passed', hstrict, hlenient, eased⟩
    · rw [hstrict, hlenient]
      exact .error _
    · rw [hstrict, hlenient]
      apply (ih (index + 1)).bind
      intro failed failed' fewer
      apply Alike.ok
      cases passed with
      | true =>
        rw [eased rfl]
        exact fewer
      | false =>
        cases passed' with
        | true => exact fewer.cons index
        | false => exact fewer.cons_cons index

-- The checks of one field, compiled under options that are no stricter.
structure FieldChecks.Eases (strict lenient : FieldChecks) : Prop where
  fieldId : lenient.fieldId = strict.fieldId
  checks : List.Forall₂ Check.Eases strict.checks lenient.checks

theorem FieldChecks.Eases.evaluate {strict lenient : FieldChecks} (eases : strict.Eases lenient)
    (value : Json) :
    Alike FieldVerdict.Eased (strict.evaluate value) (lenient.evaluate value) := by
  unfold FieldChecks.evaluate
  rw [eases.fieldId]
  apply (failedFrom_alike strict.fieldId value eases.checks 0).bind
  intro failed failed' fewer
  apply Alike.ok
  refine ⟨rfl, eases.checks.length_eq.symm, fewer, ?_⟩
  intro valid
  have none : failed = [] := List.isEmpty_iff.mp valid
  rw [none] at fewer
  exact List.isEmpty_iff.mpr (List.sublist_nil.mp fewer)

namespace Options.Relaxes

variable {strict lenient : Options} (relaxes : lenient.Relaxes strict)

include relaxes

theorem problems_eq (field : Field) : field.problems strict = field.problems lenient := by
  unfold Field.problems
  rw [Findings.problems_of_alike (relaxes.compileRules field)]

theorem compile (fields : List Field) :
    Alike (fun compiled compiled' =>
        List.Forall₂ FieldChecks.Eases compiled.1.fields compiled'.1.fields)
      (Checklist.compile strict fields) (Checklist.compile lenient fields) := by
  have same : Field.problems strict = Field.problems lenient := funext relaxes.problems_eq
  simp only [Checklist.compile, same]
  by_cases failed : (fields.flatMap (Field.problems lenient)).any Problem.isError = true
  · rw [if_pos failed, if_pos failed]
    exact .error _
  · rw [if_neg failed, if_neg failed]
    apply Alike.ok
    rw [List.forall₂_map_left_iff, List.forall₂_map_right_iff, List.forall₂_same]
    intro field _
    exact ⟨rfl, Findings.results_of_alike (relaxes.compileRules field)⟩

end Options.Relaxes

theorem Verdict.valid_ofFields_of_eased {strict lenient : List FieldVerdict}
    (eased : List.Forall₂ FieldVerdict.Eased strict lenient)
    (valid : (ofFields strict).valid = true) : (ofFields lenient).valid = true := by
  unfold ofFields at valid ⊢
  induction eased with
  | nil => rfl
  | cons first _ ih =>
    simp only [List.all_cons, Bool.and_eq_true] at valid ⊢
    exact ⟨first.valid valid.1, ih valid.2⟩

theorem Checklist.evaluate_alike {strict lenient : Checklist}
    (eases : List.Forall₂ FieldChecks.Eases strict.fields lenient.fields) (entry : Entry) :
    Alike (fun verdict verdict' => List.Forall₂ FieldVerdict.Eased verdict.fields verdict'.fields ∧
        (verdict.valid = true → verdict'.valid = true))
      (strict.evaluate entry) (lenient.evaluate entry) := by
  apply (Alike.mapM (S := FieldVerdict.Eased) (eases.imp ?_)).bind
  · intro verdicts verdicts' eased
    exact .ok ⟨eased, Verdict.valid_ofFields_of_eased eased⟩
  · intro checks checks' eases
    rw [eases.fieldId]
    cases entry.value? checks.fieldId with
    | none => exact .error _
    | some value => exact eases.evaluate value

-- Under options that are no stricter an evaluation ends with the same error, or judges the same
-- fields by as many checks, with no failures but those of the strict options.
theorem Entry.evaluate_relaxed {strict lenient : Options} (relaxes : lenient.Relaxes strict)
    (entry : Entry) :
    (∃ error, entry.evaluate strict = .error error ∧ entry.evaluate lenient = .error error) ∨
      ∃ verdict verdict', entry.evaluate strict = .ok verdict ∧
        entry.evaluate lenient = .ok verdict' ∧
        List.Forall₂ FieldVerdict.Eased verdict.fields verdict'.fields ∧
        (verdict.valid = true → verdict'.valid = true) := by
  have compiled := (relaxes.compile entry.contentType.fields).mapError EvaluationError.declarations
  have evaluated := compiled.bind fun _ _ eases => Checklist.evaluate_alike eases entry
  exact evaluated.cases

-- A size that may be zero at most, and a number from five on that is not set.
def Entry.unsetAge : Entry :=
  let title : Field := {
    id := "title"
    type := .text
    validations := [⟨[("size", .ofPairs [("max", .ofNat 0)])]⟩] }
  let age : Field := {
    id := "age"
    type := .integer
    validations := [⟨[("range", .ofPairs [("min", .ofNat 5), ("max", .ofNat 0)])]⟩] }
  .ofValues { fields := [title, age] } [("title", .string "draft")]

set_option maxRecDepth 2000 in
theorem evaluate_relaxed_unset :
    let strict : Options := { zeroBoundIsAbsent := false, nullRangeIsZero := true }
    let lenient : Options := { zeroBoundIsAbsent := true, nullRangeIsZero := false }
    let before : Verdict := ⟨false, [⟨"title", false, 1, [0]⟩, ⟨"age", false, 1, [0]⟩]⟩
    let after : Verdict := ⟨true, [⟨"title", true, 1, []⟩, ⟨"age", true, 1, []⟩]⟩
    lenient.Relaxes strict ∧
      Entry.unsetAge.evaluate strict = .ok before ∧
      Entry.unsetAge.evaluate lenient = .ok after ∧
      List.Forall₂ FieldVerdict.Eased before.fields after.fields := by
  intro strict lenient before after
  have relaxes : lenient.Relaxes strict := ⟨fun _ => rfl, fun _ => rfl⟩
  have hbefore : Entry.unsetAge.evaluate strict = .ok before := rfl
  have hafter : Entry.unsetAge.evaluate lenient = .ok after := rfl
  refine ⟨relaxes, hbefore, hafter, ?_⟩
  rcases Entry.evaluate_relaxed relaxes Entry.unsetAge with
    ⟨error, failed, _⟩ | ⟨verdict, verdict', hverdict, hverdict', eased, _⟩
  · rw [hbefore] at failed
    cases failed
  · rw [hbefore] at hverdict
    rw [hafter] at hverdict'
    cases hverdict
    cases hverdict'
    exact eased

end Vetting
