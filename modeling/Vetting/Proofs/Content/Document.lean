import Vetting.Content.Document
import Vetting.Proofs.Json.Record

namespace Vetting

open Json (Readable Record)

theorem Json.readable_asListOf_iff {α : Type} {read : Json → Json.Shaped α} {value : Json} :
    Readable (Json.asListOf read) value ↔
      ∃ items, value = .array items ∧ ∀ item ∈ items, Readable read item := by
  unfold Readable
  cases value <;> simp [Json.asListOf, Outcome.exists_mapM_eq_ok_iff]

theorem Field.ofRecord_eq_ok_iff {record : Record} {field : Field} :
    ofRecord record = .ok field ↔
      record.get 0 idSlot = .ok field.id ∧ record.get 1 nameSlot = .ok field.name ∧
      record.get 2 typeSlot = .ok field.type ∧ record.get 3 requiredSlot = .ok field.required ∧
      record.get 4 validationsSlot = .ok field.validations ∧
      record.get 5 localizedSlot = .ok field.localized ∧
      record.get 6 disabledSlot = .ok field.disabled ∧
      record.get 7 omittedSlot = .ok field.omitted := by
  unfold ofRecord
  simp only [Outcome.bind_eq_ok]
  constructor
  · rintro ⟨id, hid, name, hname, type, htype, required, hrequired, validations, hvalidations,
      localized, hlocalized, disabled, hdisabled, omitted, homitted, h⟩
    cases h
    exact ⟨hid, hname, htype, hrequired, hvalidations, hlocalized, hdisabled, homitted⟩
  · rintro ⟨hid, hname, htype, hrequired, hvalidations, hlocalized, hdisabled, homitted⟩
    exact ⟨_, hid, _, hname, _, htype, _, hrequired, _, hvalidations, _, hlocalized, _, hdisabled,
      _, homitted, rfl⟩

-- Only its id and its type must be given for a field.
theorem Field.readable_object_iff {members : Json.Members} :
    Readable Field.ofJson (.object members) ↔
      shape.Suits members ∧ ∀ key ∈ ["id", "type"], members.contains key = true := by
  unfold ofJson
  rw [Json.readable_object_iff]
  refine and_congr_right fun suits => ?_
  constructor
  · rintro ⟨field, h⟩
    obtain ⟨hid, _, htype, _⟩ := ofRecord_eq_ok_iff.mp h
    have hasId : members.contains "id" = true := Record.contains_of_get_named hid rfl
    have hasType : members.contains "type" = true := Record.contains_of_get_named htype rfl
    simp [hasId, hasType]
  · intro given
    have hasId := given "id" (by simp)
    have hasType := given "type" (by simp)
    obtain ⟨id, hid⟩ := suits.get idSlot rfl (.inl hasId) 0
    obtain ⟨name, hname⟩ := suits.get nameSlot rfl (.inr rfl) 1
    obtain ⟨type, htype⟩ := suits.get typeSlot rfl (.inl hasType) 2
    obtain ⟨required, hrequired⟩ := suits.get requiredSlot rfl (.inr rfl) 3
    obtain ⟨validations, hvalidations⟩ := suits.get validationsSlot rfl (.inr rfl) 4
    obtain ⟨localized, hlocalized⟩ := suits.get localizedSlot rfl (.inr rfl) 5
    obtain ⟨disabled, hdisabled⟩ := suits.get disabledSlot rfl (.inr rfl) 6
    obtain ⟨omitted, homitted⟩ := suits.get omittedSlot rfl (.inr rfl) 7
    exact ⟨⟨id, name, type, required, validations, localized, disabled, omitted⟩,
      ofRecord_eq_ok_iff.mpr ⟨hid, hname, htype, hrequired, hvalidations, hlocalized, hdisabled,
        homitted⟩⟩

theorem ContentType.ofRecord_eq_ok_iff {record : Record} {contentType : ContentType} :
    ofRecord record = .ok contentType ↔
      record.get 0 idSlot = .ok contentType.id ∧ record.get 1 nameSlot = .ok contentType.name ∧
      record.get 2 displayFieldSlot = .ok contentType.displayField ∧
      record.get 3 fieldsSlot = .ok contentType.fields := by
  unfold ofRecord
  simp only [Outcome.bind_eq_ok]
  constructor
  · rintro ⟨id, hid, name, hname, displayField, hdisplay, fields, hfields, h⟩
    cases h
    exact ⟨hid, hname, hdisplay, hfields⟩
  · rintro ⟨hid, hname, hdisplay, hfields⟩
    exact ⟨_, hid, _, hname, _, hdisplay, _, hfields, rfl⟩

-- Only the list of its fields must be given for a content type.
theorem ContentType.readable_object_iff {members : Json.Members} :
    Readable ContentType.ofJson (.object members) ↔
      shape.Suits members ∧ ∀ key ∈ ["fields"], members.contains key = true := by
  unfold ofJson
  rw [Json.readable_object_iff]
  refine and_congr_right fun suits => ?_
  constructor
  · rintro ⟨contentType, h⟩
    obtain ⟨_, _, _, hfields⟩ := ofRecord_eq_ok_iff.mp h
    have hasFields : members.contains "fields" = true := Record.contains_of_get_named hfields rfl
    simp [hasFields]
  · intro given
    have hasFields := given "fields" (by simp)
    obtain ⟨id, hid⟩ := suits.get idSlot rfl (.inr rfl) 0
    obtain ⟨name, hname⟩ := suits.get nameSlot rfl (.inr rfl) 1
    obtain ⟨displayField, hdisplay⟩ := suits.get displayFieldSlot rfl (.inr rfl) 2
    obtain ⟨fields, hfields⟩ := suits.get fieldsSlot rfl (.inl hasFields) 3
    exact ⟨⟨id, name, displayField, fields⟩,
      ofRecord_eq_ok_iff.mpr ⟨hid, hname, hdisplay, hfields⟩⟩

end Vetting
