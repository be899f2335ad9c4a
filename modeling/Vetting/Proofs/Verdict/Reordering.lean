import Vetting.Proofs.Rule.Diagnosis
import Vetting.Proofs.Verdict.Locality
import Vetting.Proofs.Verdict.Presence

namespace Vetting

namespace Checklist

variable {fields others : List Field}

theorem exists_compile_error_iff {options : Options} :
    (∃ problems, compile options fields = .error problems) ↔
      ¬∀ field ∈ fields, field.Sound options := by
  rw [← exists_compile_iff]
  cases compile options fields <;> simp

theorem compile_fails_of_perm (options : Options) (order : fields.Perm others) :
    (∃ problems, compile options fields = .error problems) ↔
      ∃ problems, compile options others = .error problems := by
  simp only [exists_compile_error_iff, order.mem_iff]

theorem reported_perm (describe : Pattern.SyntaxFault → String) (options : Options)
    (order : fields.Perm others) :
    (reported describe options fields).errors.Perm (reported describe options others).errors ∧
      (reported describe options fields).warnings.Perm
        (reported describe options others).warnings := by
  rw [errors_reported, errors_reported, warnings_reported, warnings_reported]
  exact ⟨order.flatMap_right _, order.flatMap_right _⟩

end Checklist

-- Two verdicts on the same fields in different orders: each field has one verdict, and the fields
-- were moved together with their verdicts.
structure Verdict.MovedWith (fields others : List Field) (verdict other : Verdict) : Prop where
  valid : other.valid = verdict.valid
  length : verdict.fields.length = fields.length
  length' : other.fields.length = others.length
  paired : (fields.zip verdict.fields).Perm (others.zip other.fields)

theorem Verdict.movedWith_ofFields {fields others : List Field}
    {verdicts verdicts' : List FieldVerdict} (length : verdicts.length = fields.length)
    (length' : verdicts'.length = others.length)
    (paired : (fields.zip verdicts).Perm (others.zip verdicts')) :
    (ofFields verdicts).MovedWith fields others (ofFields verdicts') := by
  refine ⟨?_, length, length', paired⟩
  have moved := paired.map Prod.snd
  rw [List.map_snd_zip (Nat.le_of_eq length), List.map_snd_zip (Nat.le_of_eq length')] at moved
  exact moved.symm.all_eq

namespace Entry

variable {options : Options} {entry other : Entry}

-- An evaluation finds what is found on the fields one by one.
theorem evaluate_of_judged {verdicts : List FieldVerdict}
    (sound : ∀ field ∈ entry.contentType.fields, field.Sound options)
    (judged : List.Forall₂ (Field.Judged options entry) entry.contentType.fields verdicts) :
    entry.evaluate options = .ok (.ofFields verdicts) := by
  obtain ⟨⟨checklist, warnings⟩, compiled⟩ := Checklist.exists_compile_iff.mpr sound
  have answered : checklist.fields.mapM (FieldChecks.judge entry) = .ok verdicts := by
    rw [(Checklist.compile_eq_ok compiled).1, Outcome.mapM_eq_ok, List.forall₂_map_left_iff]
    apply judged.imp
    rintro field verdict ⟨value, hvalue, hverdict⟩
    simp only [FieldChecks.judge, hvalue, hverdict]
  refine Outcome.bind_eq_ok.mpr ⟨(checklist, warnings), ?_, ?_⟩
  · rw [compiled]
    rfl
  · exact Outcome.bind_eq_ok.mpr ⟨verdicts, answered, rfl⟩

theorem exists_evaluate_of_perm (order : entry.contentType.fields.Perm other.contentType.fields)
    (same : ∀ id, other.value? id = entry.value? id) {verdict : Verdict}
    (h : entry.evaluate options = .ok verdict) :
    ∃ moved, other.evaluate options = .ok moved ∧
      verdict.MovedWith entry.contentType.fields other.contentType.fields moved := by
  obtain ⟨sound, verdicts, judged, rfl⟩ := evaluate_eq_ok h
  obtain ⟨moved, judged', paired⟩ := Outcome.forall₂_perm order judged
  have sound' : ∀ field ∈ other.contentType.fields, field.Sound options :=
    fun field hf => sound field (order.mem_iff.mpr hf)
  have judgedThere : List.Forall₂ (Field.Judged options other) other.contentType.fields moved := by
    apply judged'.imp
    rintro field verdict ⟨value, hvalue, hverdict⟩
    exact ⟨value, (same field.id).trans hvalue, hverdict⟩
  exact ⟨.ofFields moved, evaluate_of_judged sound' judgedThere,
    Verdict.movedWith_ofFields judged.length_eq.symm judged'.length_eq.symm paired⟩

theorem exists_evaluate_iff_of_perm
    (order : entry.contentType.fields.Perm other.contentType.fields)
    (same : ∀ id, other.value? id = entry.value? id) :
    (∃ verdict, entry.evaluate options = .ok verdict) ↔
      ∃ verdict, other.evaluate options = .ok verdict := by
  constructor
  · rintro ⟨verdict, h⟩
    obtain ⟨moved, hmoved, _⟩ := exists_evaluate_of_perm order same h
    exact ⟨moved, hmoved⟩
  · rintro ⟨verdict, h⟩
    obtain ⟨moved, hmoved, _⟩ := exists_evaluate_of_perm order.symm (fun id => (same id).symm) h
    exact ⟨moved, hmoved⟩

theorem Complete.of_perm (complete : entry.Complete)
    (order : entry.contentType.fields.Perm other.contentType.fields)
    (same : ∀ id, other.value? id = entry.value? id) : other.Complete := by
  intro id
  have ids : entry.contentType.fieldIds.Perm other.contentType.fieldIds := order.map _
  rw [← ids.mem_iff, ← complete id, Json.Members.contains, Json.Members.contains, ← value?,
    ← value?, same id]

theorem evaluate_eq_declarations_iff {problems : List Problem} :
    entry.evaluate options = .error (.declarations problems) ↔
      Checklist.compile options entry.contentType.fields = .error problems := by
  constructor
  · intro h
    rcases evaluate_eq_error.mp h with ⟨_, failed, same⟩ | ⟨_, _, _, failed⟩
    · cases same
      exact failed
    · obtain ⟨_, _, _, _, _, failed⟩ := Checklist.evaluate_eq_error.mp failed
      rcases FieldChecks.judge_eq_error failed with ⟨_, h⟩ | ⟨_, _, h⟩ <;> cases h
  · intro failed
    exact evaluate_eq_error.mpr (.inl ⟨problems, failed, rfl⟩)

-- Where every field has a value, an evaluation without a verdict fails by a check if all fields
-- compile.
theorem Complete.exists_check_error_iff (complete : entry.Complete) :
    (∃ fieldId index cause, entry.evaluate options = .error (.check fieldId index cause)) ↔
      (∀ field ∈ entry.contentType.fields, field.Sound options) ∧
        ¬∃ verdict, entry.evaluate options = .ok verdict := by
  constructor
  · rintro ⟨fieldId, index, cause, failed⟩
    refine ⟨?_, by simp [failed]⟩
    rcases Entry.evaluate_eq_error.mp failed with ⟨_, _, h⟩ | ⟨_, _, compiled, _⟩
    · cases h
    · exact Checklist.exists_compile_iff.mp ⟨_, compiled⟩
  · rintro ⟨sound, unjudged⟩
    cases h : entry.evaluate options with
    | ok verdict => exact absurd ⟨verdict, h⟩ unjudged
    | error error =>
      rcases complete.evaluate_eq_error h with ⟨problems, rfl⟩ | ⟨fieldId, _, index, cause, rfl⟩
      · have failed := evaluate_eq_declarations_iff.mp h
        exact absurd sound (Checklist.exists_compile_error_iff.mp ⟨problems, failed⟩)
      · exact ⟨fieldId, index, cause, rfl⟩

end Entry

-- However the fields of a content type are ordered, they compile or fail alike, with the same
-- errors and warnings in some order. Entries with the same values have a verdict or none alike. The
-- fields take their verdicts with them, and the entry is as valid as before. If a check cannot be
-- applied in one order, some check cannot in the other.
theorem ContentType.alike_reordered (options : Options) {contentType other : ContentType}
    (order : contentType.fields.Perm other.fields) :
    ((∃ problems, Checklist.compile options contentType.fields = .error problems) ↔
      ∃ problems, Checklist.compile options other.fields = .error problems) ∧
    (∀ describe,
      (Checklist.reported describe options contentType.fields).errors.Perm
        (Checklist.reported describe options other.fields).errors ∧
      (Checklist.reported describe options contentType.fields).warnings.Perm
        (Checklist.reported describe options other.fields).warnings) ∧
    (∀ values id, (Entry.ofValues other values).value? id =
      (Entry.ofValues contentType values).value? id) ∧
    ∀ entry entry' : Entry, entry.contentType = contentType → entry'.contentType = other →
      (∀ id, entry'.value? id = entry.value? id) →
      ((∃ verdict, entry.evaluate options = .ok verdict) ↔
        ∃ verdict, entry'.evaluate options = .ok verdict) ∧
      (∀ verdict verdict', entry.evaluate options = .ok verdict →
        entry'.evaluate options = .ok verdict' →
        verdict.MovedWith contentType.fields other.fields verdict') ∧
      (entry.Complete →
        ((∃ id index cause, entry.evaluate options = .error (.check id index cause)) ↔
          ∃ id index cause, entry'.evaluate options = .error (.check id index cause))) := by
  have ids : contentType.fieldIds.Perm other.fieldIds := order.map _
  refine ⟨Checklist.compile_fails_of_perm options order,
    fun describe => Checklist.reported_perm describe options order,
    Entry.value?_ofValues_congr fun id => ids.symm.mem_iff, ?_⟩
  rintro entry entry' rfl rfl same
  have judged : (∃ verdict, entry.evaluate options = .ok verdict) ↔
      ∃ verdict, entry'.evaluate options = .ok verdict :=
    Entry.exists_evaluate_iff_of_perm order same
  refine ⟨judged, ?_, fun complete => ?_⟩
  · intro verdict verdict' h h'
    obtain ⟨moved, hmoved, movedWith⟩ := Entry.exists_evaluate_of_perm order same h
    rw [h'] at hmoved
    cases hmoved
    exact movedWith
  · rw [complete.exists_check_error_iff, (complete.of_perm order same).exists_check_error_iff,
      judged]
    simp only [order.mem_iff]

-- A title that is too long for its size, and an age.
def ContentType.dated : ContentType where
  fields := [
    { id := "title"
      type := .text
      required := true
      validations := [⟨[("size", .ofPairs [("max", .ofNat 3)])]⟩] },
    { id := "age"
      type := .integer
      validations := [⟨[("range", .ofPairs [("min", .ofNat 18)])]⟩] }]

set_option maxRecDepth 2000 in
-- Both orders agree on the verdicts; where neither field has a value of its type, each order blames
-- its first one.
theorem alike_reordered_dated :
    let other : ContentType := { fields := ContentType.dated.fields.reverse }
    let values : Json.Members := [("title", .string "draft"), ("age", .ofNat 20)]
    let swapped : Json.Members := [("title", .ofNat 20), ("age", .string "draft")]
    let verdict : Verdict := ⟨false, [⟨"title", false, 2, [0]⟩, ⟨"age", true, 1, []⟩]⟩
    let verdict' : Verdict := ⟨false, [⟨"age", true, 1, []⟩, ⟨"title", false, 2, [0]⟩]⟩
    ContentType.dated.fields.Perm other.fields ∧
      (Entry.ofValues .dated values).evaluate {} = .ok verdict ∧
      (Entry.ofValues other values).evaluate {} = .ok verdict' ∧
      verdict.MovedWith ContentType.dated.fields other.fields verdict' ∧
      (Entry.ofValues .dated swapped).evaluate {} =
        .error (.check "title" 0 (.wrongKind "size" "string" "number")) ∧
      ∃ id index cause, (Entry.ofValues other swapped).evaluate {} =
        .error (.check id index cause) := by
  intro other values swapped verdict verdict'
  have order : ContentType.dated.fields.Perm other.fields := (List.reverse_perm _).symm
  obtain ⟨-, -, same, alike⟩ := ContentType.alike_reordered {} order
  have h : (Entry.ofValues .dated values).evaluate {} = .ok verdict := rfl
  have h' : (Entry.ofValues other values).evaluate {} = .ok verdict' := rfl
  have failed : (Entry.ofValues .dated swapped).evaluate {} =
    .error (.check "title" 0 (.wrongKind "size" "string" "number")) := rfl
  refine ⟨order, h, h', (alike _ _ rfl rfl (same values)).2.1 verdict verdict' h h', failed, ?_⟩
  have complete := Entry.complete_ofValues .dated swapped
  exact ((alike _ _ rfl rfl (same swapped)).2.2 complete).mp ⟨_, _, _, failed⟩

end Vetting
