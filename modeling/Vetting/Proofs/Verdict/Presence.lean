import Vetting.Proofs.Entry.Chronology
import Vetting.Proofs.Verdict.Evaluation

namespace Vetting

theorem Entry.Complete.evaluate_eq_error {entry : Entry} (complete : entry.Complete)
    {options : Options} {error : EvaluationError} (h : entry.evaluate options = .error error) :
    (∃ problems, error = .declarations problems) ∨
      ∃ fieldId ∈ entry.contentType.fieldIds, ∃ index cause,
        error = .check fieldId index cause := by
  rcases Entry.evaluate_eq_error.mp h with
    ⟨problems, _, rfl⟩ | ⟨checklist, warnings, compiled, failed⟩
  · exact .inl ⟨problems, rfl⟩
  · obtain ⟨before, checks, after, split, _, failed⟩ := Checklist.evaluate_eq_error.mp failed
    have declared : checks.fieldId ∈ entry.contentType.fieldIds := by
      have member : checks ∈ checklist.fields := by
        rw [split]
        exact List.mem_append_right _ List.mem_cons_self
      rw [(Checklist.compile_eq_ok compiled).1] at member
      obtain ⟨field, hf, rfl⟩ := List.mem_map.mp member
      exact List.mem_map_of_mem hf
    rcases FieldChecks.judge_eq_error failed with ⟨missing, _⟩ | ⟨index, cause, rfl⟩
    · have there := (complete checks.fieldId).mpr declared
      rw [Json.Members.contains, ← Entry.value?, missing] at there
      cases there
    · exact .inr ⟨checks.fieldId, declared, index, cause, rfl⟩

namespace ListenedEntry

variable {state final : ListenedEntry} {tasks left : List Task} {moments : List Moment}

theorem Reaches.contentType_final (run : Reaches state tasks moments final left) :
    final.entry.contentType = state.entry.contentType := by
  rw [run.entry_final, Entry.setDeclared_contentType]

theorem Reaches.complete_final (run : Reaches state tasks moments final left)
    (complete : state.entry.Complete) : final.entry.Complete := by
  rw [run.entry_final]
  exact complete.setDeclared _

-- Setting a field that is not declared does nothing at all.
theorem act_set_of_eq_none {id : String} {value : Json}
    (refused : state.entry.set? id value = none) : state.act (.set id value) = (state, []) := by
  rw [act, run]
  simp only [step, set, refused, List.nil_append]
  rw [run]

-- In every state that a run comes through, in the middle of notifications too, the fields with a
-- value are those of the content type, and no other field can be set. So none of them is ever
-- missing in an evaluation.
theorem Reaches.never_missing {contentType : ContentType} {values : Json.Members}
    {actions : List Action}
    (run : Reaches { entry := .ofValues contentType values } (actions.map .act) moments final
      left) :
    final.entry.contentType = contentType ∧
    (∀ id, (final.entry.value? id).isSome = true ↔ id ∈ contentType.fieldIds) ∧
    (∀ id value, id ∉ contentType.fieldIds →
      final.entry.set? id value = none ∧ final.act (.set id value) = (final, [])) ∧
    ∀ options id, final.entry.evaluate options ≠ .error (.missingField id) := by
  have same : final.entry.contentType = contentType := by
    rw [run.contentType_final, Entry.ofValues_contentType]
  have complete : final.entry.Complete :=
    run.complete_final (Entry.complete_ofValues contentType values)
  refine ⟨same, ?_, ?_, ?_⟩
  · intro id
    rw [← same]
    exact complete id
  · intro id value unknown
    have refused : final.entry.set? id value = none := by
      rw [← same] at unknown
      exact if_neg fun there => unknown ((complete id).mp there)
    exact ⟨refused, act_set_of_eq_none refused⟩
  · intro options id failed
    rcases complete.evaluate_eq_error failed with ⟨_, h⟩ | ⟨_, _, _, _, h⟩ <;> cases h

-- A content type that declares its title twice, an entry of it that is also given a slug, and a
-- listener to the title that sets the slug, adds another listener and sets the age.
def doubled : ContentType where
  fields := [{ id := "title", type := .symbol }, { id := "age", type := .integer },
    { id := "title", type := .text, required := true }]

def doubledValues : Json.Members := [("slug", .null), ("title", .string "draft")]

def meddling : List Action :=
  [.set "slug" (.string "new"), .listen "age" "late" 0 [], .set "age" (.ofNat 3)]

def doubledActions : List Action :=
  [.listen "title" "meddler" 1 meddling, .set "title" (.string "new")]

-- The state in which the listener is about to set the age.
theorem never_missing_doubled :
    ∃ moments final,
      Reaches { entry := .ofValues doubled doubledValues } (doubledActions.map .act) moments final
        [.act (.set "age" (.ofNat 3))] ∧
      final.fields = ["title", "age"] ∧ "slug" ∉ doubled.fieldIds ∧
      (final.entry.value? "slug").isSome = false ∧ (final.entry.value? "age").isSome = true ∧
      final.entry.set? "slug" .null = none ∧ final.act (.set "slug" .null) = (final, []) ∧
      ∀ options id, final.entry.evaluate options ≠ .error (.missingField id) := by
  have reached :
      ∃ moments final,
        Reaches { entry := .ofValues doubled doubledValues } (doubledActions.map .act) moments final
          [.act (.set "age" (.ofNat 3))] ∧ final.fields = ["title", "age"] :=
    ⟨_, _,
      .step (.act _) <| .step (.act _) <| .step (.call rfl rfl meddling) <| .step (.act _) <|
        .step (.act _) <| .refl _ _,
      rfl⟩
  obtain ⟨moments, final, run, listened⟩ := reached
  obtain ⟨_, declared, others, present⟩ := run.never_missing
  have unknown : "slug" ∉ doubled.fieldIds := by decide
  have known : "age" ∈ doubled.fieldIds := by decide
  obtain ⟨refused, idle⟩ := others "slug" .null unknown
  refine ⟨moments, final, run, listened, unknown, ?_, (declared "age").mpr known, refused, idle,
    present⟩
  rw [Bool.eq_false_iff]
  exact fun there => unknown ((declared "slug").mp there)

end ListenedEntry

end Vetting
