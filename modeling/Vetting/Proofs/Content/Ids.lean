import Mathlib.Data.List.DropRight
import Mathlib.Data.List.Nodup
import Vetting.Content.Check
import Vetting.Proofs.Lists

namespace Vetting

-- A text without the blanks at its ends.
def Text.trimmed (text : String) : String :=
  .ofList ((text.toList.dropWhile isBlank).rdropWhile isBlank)

theorem Text.isBlankText_iff {text : String} : isBlankText text = true ↔ trimmed text = "" := by
  have none : trimmed text = "" ↔ ∀ c ∈ text.toList.dropWhile isBlank, isBlank c = true := by
    rw [trimmed, ← String.toList_inj, String.toList_ofList]
    exact List.rdropWhile_eq_nil_iff
  rw [none, isBlankText, List.all_eq_true]
  constructor
  · exact fun blank c hc => blank c ((List.dropWhile_suffix _).subset hc)
  · intro blank c hc
    rw [← List.takeWhile_append_dropWhile (p := isBlank) (l := text.toList)] at hc
    obtain leading | rest := List.mem_append.mp hc
    · exact List.mem_takeWhile_imp leading
    · exact blank c rest

namespace ContentType

variable {contentType : ContentType}

theorem field?_of_mem (distinct : contentType.fieldIds.Nodup) {field : Field}
    (hf : field ∈ contentType.fields) : contentType.field? field.id = some field := by
  unfold field?
  cases h : contentType.fields.find? (·.id == field.id) with
  | none => exact absurd (beq_self_eq_true field.id) (List.find?_eq_none.mp h field hf)
  | some found =>
    have same : found.id = field.id := by simpa using List.find?_some h
    rw [List.inj_on_of_nodup_map distinct (List.mem_of_find?_eq_some h) hf same]

theorem field?_eq_none_iff {id : String} :
    contentType.field? id = none ↔ id ∉ contentType.fieldIds := by
  unfold field? fieldIds
  rw [List.find?_eq_none]
  simp

-- Fields whose ids are in order are passed over.
theorem checkIds_append {before : List Field}
    (distinct : Distinct (Text.trimmed · ≠ "") (before.map (·.id))) (rest : List Field) :
    checkIds [] 0 (before ++ rest) = checkIds (before.map (·.id)).reverse before.length rest := by
  induction before using List.reverseRecOn generalizing rest with
  | nil => rfl
  | append_singleton before field ih =>
    rw [List.map_append, List.map_singleton] at distinct
    obtain ⟨distinct, filled, fresh⟩ := distinct_append_singleton.mp distinct
    rw [List.append_assoc, List.singleton_append, ih distinct, checkIds,
      if_neg (by rwa [Text.isBlankText_iff]), if_neg (by simpa using fresh), List.map_append,
      List.map_singleton, List.reverse_concat, List.length_append, List.length_singleton]

-- What is wrong with an id at a place.
def idFault (index : Nat) (id : String) : ContentError :=
  if Text.trimmed id = "" then .emptyId index else .repeatedId id

theorem readsDistinct_check (contentType : ContentType) :
    ReadsDistinct (Text.trimmed · ≠ "") (fun before id => idFault before.length id)
      contentType.fieldIds contentType.check where
  accepts distinct := by
    have passed := checkIds_append distinct []
    rw [List.append_nil] at passed
    exact ⟨(), passed⟩
  refuses split distinct fault := by
    obtain ⟨earlier, rest, fields, rfl, hrest⟩ := List.map_eq_append_iff.mp split
    obtain ⟨field, later, rfl, rfl, rfl⟩ := List.map_eq_cons_iff.mp hrest
    rw [check, fields, checkIds_append distinct, checkIds, idFault, List.length_map]
    by_cases blank : Text.trimmed field.id = ""
    · rw [if_pos blank, if_pos (Text.isBlankText_iff.mpr blank)]
    · have again := fault.resolve_left (not_not.mpr blank)
      rw [if_neg blank, if_neg (by rwa [Text.isBlankText_iff]), if_pos (by simpa using again)]

theorem nodup_of_check (sound : contentType.check = .ok ()) : contentType.fieldIds.Nodup :=
  ((readsDistinct_check contentType).exists_ok_iff.mp ⟨(), sound⟩).nodup

-- A content type passes if every id has something left without the blanks at its ends and no two
-- ids are the same. Otherwise it is refused for the first id that is blank or repeats an earlier
-- one, as a blank one if it is both. Where it passes, the id of each field leads back to the field.
theorem check_accepts_distinct_ids (contentType : ContentType) :
    (contentType.check = .ok () ↔
      (∀ id ∈ contentType.fieldIds, Text.trimmed id ≠ "") ∧ contentType.fieldIds.Nodup) ∧
    (∀ error, contentType.check = .error error ↔
      ∃ index id, IsLeast {index | FaultAt (Text.trimmed · ≠ "") contentType.fieldIds index} index ∧
        contentType.fieldIds[index]? = some id ∧ error = idFault index id) ∧
    (∀ index id, (idFault index id).message =
      if Text.trimmed id = "" then s!"invalid schema: field {index} has an empty id"
      else s!"invalid schema: duplicate field id: {id}") ∧
    (contentType.check = .ok () →
      ∀ field ∈ contentType.fields, contentType.field? field.id = some field) := by
  have reads := readsDistinct_check contentType
  refine ⟨?_, fun error => ?_, fun index id => ?_, fun sound field => ?_⟩
  · constructor
    · intro sound
      obtain ⟨filled, nodup⟩ := reads.exists_ok_iff.mp ⟨(), sound⟩
      exact ⟨filled, nodup⟩
    · rintro ⟨filled, nodup⟩
      exact (reads.accepts ⟨filled, nodup⟩).choose_spec
  · rw [reads.eq_error_iff]
    refine exists₂_congr fun index id => and_congr_right fun _ => and_congr_right fun there => ?_
    have inside := (List.getElem?_eq_some_iff.mp there).1
    rw [List.length_take_of_le inside.le]
  · unfold idFault
    split <;> rfl
  · exact field?_of_mem (nodup_of_check sound)

-- Two ids that differ only in blanks are different.
def nearlySame : ContentType where
  fields := [{ id := "title", type := .text }, { id := "title ", type := .integer }]

theorem check_accepts_distinct_ids_nearlySame :
    nearlySame.check = .ok () ∧ nearlySame.fields.length = 2 ∧
      ∀ field ∈ nearlySame.fields, nearlySame.field? field.id = some field := by
  have sound : nearlySame.check = .ok () := rfl
  exact ⟨sound, rfl, (check_accepts_distinct_ids nearlySame).2.2.2 sound⟩

end ContentType

end Vetting
