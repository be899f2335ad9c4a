import Vetting.Proofs.Content.Schema

namespace Vetting

namespace FieldType

-- A type with a name of its own does not take the name of a known type.
def IsProper (type : FieldType) : Prop := ∀ other ∈ known, type ≠ .other other.name

theorem ofName_name {type : FieldType} (proper : type.IsProper) : ofName type.name = type := by
  cases type with
  | other name =>
    have unknown : known.find? (·.name == name) = none := by
      rw [List.find?_eq_none]
      intro type ht hn
      exact proper type ht (by rw [beq_iff_eq.mp hn])
    rw [FieldType.name, ofName, unknown]
    rfl
  | _ => rfl

theorem isProper_ofName (name : String) : (ofName name).IsProper := by
  intro other ho same
  unfold ofName at same
  cases hf : known.find? (·.name == name) with
  | none =>
    rw [hf] at same
    obtain rfl : name = other.name := FieldType.other.inj same
    exact List.find?_eq_none.mp hf other ho (beq_self_eq_true _)
  | some type =>
    rw [hf] at same
    have hk : FieldType.other other.name ∈ known := same ▸ List.mem_of_find?_eq_some hf
    simp [known] at hk

end FieldType

theorem Json.asListOf_map {α : Type} {read : Json → Json.Shaped α} {write : α → Json}
    {items : List α} (h : ∀ item ∈ items, read (write item) = .ok item) :
    Json.asListOf read (.array (items.map write)) = .ok items := by
  rw [Json.asListOf, Outcome.mapM_eq_ok, List.forall₂_map_left_iff]
  exact List.forall₂_same.mpr h

namespace Field

-- The members of a written field, but with some values for its type and its validations.
def membersWith (field : Field) (type validations : Json) : Json.Members :=
  [("disabled", .bool field.disabled), ("id", .string field.id),
    ("localized", .bool field.localized)] ++
  optionalText "name" field.name ++
  [("omitted", .bool field.omitted), ("required", .bool field.required), ("type", type),
    ("validations", validations)]

-- All members are checked before the first one is read.
theorem ofJson_membersWith (field : Field) (type validations : Json) :
    ofJson (.object (field.membersWith type validations)) = do
      let checked : Json.Shaped Unit := do
        discard (FieldType.ofJson type)
        discard (Json.asListOf Declaration.ofJson validations)
        return ()
      checked
      return { field with
        type := ← FieldType.ofJson type
        validations := ← Json.asListOf Declaration.ofJson validations } := by
  obtain ⟨id, name, _, required, _, localized, disabled, omitted⟩ := field
  cases name <;> rfl

theorem ofJson_toJson {field : Field} (proper : field.type.IsProper) :
    ofJson field.toJson = .ok field := by
  have htype : FieldType.ofJson (.string field.type.name) = .ok field.type := by
    rw [FieldType.ofJson, Json.asString, Outcome.map_eq_ok]
    exact ⟨_, rfl, FieldType.ofName_name proper⟩
  have hvalidations : Json.asListOf Declaration.ofJson
      (.array (field.validations.map Declaration.toJson)) = .ok field.validations :=
    Json.asListOf_map fun declaration _ => rfl
  rw [toJson, ← membersWith, ofJson_membersWith, htype, hvalidations]
  rfl

theorem isProper_of_ofJson {document : Json} {field : Field} (h : ofJson document = .ok field) :
    field.type.IsProper := by
  obtain ⟨record, build, holds⟩ := Json.RecordShape.read_eq_ok h
  have htype := holds (ofRecord_eq_ok_iff.mp build).2.2.1
  unfold Json.Slot.Holds at htype
  split at htype
  · obtain ⟨name, _, hname⟩ := Outcome.map_eq_ok.mp htype
    exact hname ▸ FieldType.isProper_ofName name
  · cases htype

end Field

namespace ContentType

-- The members of a written content type, but with some value for its fields.
def membersWith (contentType : ContentType) (fields : Json) : Json.Members :=
  optionalText "displayField" contentType.displayField ++ [("fields", fields)] ++
    optionalText "id" contentType.id ++ optionalText "name" contentType.name

theorem ofJson_membersWith (contentType : ContentType) (fields : Json) :
    ofJson (.object (contentType.membersWith fields)) = do
      let checked : Json.Shaped Unit := do
        discard (Json.asListOf Field.ofJson fields)
        return ()
      checked
      return { contentType with fields := ← Json.asListOf Field.ofJson fields } := by
  obtain ⟨id, name, displayField, _⟩ := contentType
  cases id <;> cases name <;> cases displayField <;> rfl

-- Every field has a proper type.
def IsProper (contentType : ContentType) : Prop :=
  ∀ field ∈ contentType.fields, field.type.IsProper

theorem ofJson_toJson {contentType : ContentType} (proper : contentType.IsProper) :
    ofJson contentType.toJson = .ok contentType := by
  have hfields : Json.asListOf Field.ofJson (.array (contentType.fields.map Field.toJson)) =
      .ok contentType.fields :=
    Json.asListOf_map fun field hf => Field.ofJson_toJson (proper field hf)
  rw [toJson, ← membersWith, ofJson_membersWith, hfields]
  rfl

theorem isProper_of_ofJson {document : Json} {contentType : ContentType}
    (h : ofJson document = .ok contentType) : contentType.IsProper := by
  obtain ⟨record, build, holds⟩ := Json.RecordShape.read_eq_ok h
  have hfields := holds (ofRecord_eq_ok_iff.mp build).2.2.2
  unfold Json.Slot.Holds at hfields
  split at hfields
  · rename_i given _
    cases given with
    | array items =>
      intro field hf
      obtain ⟨item, _, hitem⟩ := Outcome.exists_of_mem_mapM hfields hf
      exact Field.isProper_of_ofJson hitem
    | _ => cases hfields
  · cases hfields

theorem givenAsObjects_toJson (contentType : ContentType) :
    GivenAsObjects contentType.toJson := by
  refine ⟨_, rfl, fun items hitems item hi => ?_⟩
  have written : items = contentType.fields.map Field.toJson := by
    obtain ⟨id, name, displayField, fields⟩ := contentType
    cases id <;> cases name <;> cases displayField <;> simpa [optionalText] using hitems
  obtain ⟨field, _, rfl⟩ := List.mem_map.mp (written ▸ hi)
  exact ⟨_, rfl⟩

theorem check?_toJson {contentType : ContentType} (proper : contentType.IsProper) :
    Schema.check? schemaDocument contentType.toJson = some [] :=
  (check?_eq_nil_iff _).mpr
    ⟨⟨contentType, ofJson_toJson proper⟩, givenAsObjects_toJson contentType⟩

-- Only the ids of a content type can keep it from being read as it was written.
theorem parse_toJson {contentType : ContentType} (proper : contentType.IsProper) :
    parse contentType.toJson = do contentType.check; return contentType := by
  obtain ⟨read, hread, parsed⟩ := parse_of_check?_eq_nil (check?_toJson proper)
  cases (ofJson_toJson proper).symm.trans hread
  exact parsed

-- What is written is admitted, and comes back as it was or is refused for its ids. Reading makes
-- every type proper, so a content type that was read can be written and read any number of times.
theorem round_trip :
    (∀ contentType : ContentType, contentType.IsProper →
      Schema.check? schemaDocument contentType.toJson = some [] ∧
      (contentType.check = .ok () → parse contentType.toJson = .ok contentType) ∧
      ∀ error, contentType.check = .error error →
        error.isInvalid = true ∧ parse contentType.toJson = .error error) ∧
    ∀ document contentType, parse document = .ok contentType →
      parse contentType.toJson = .ok contentType := by
  have again {contentType : ContentType} (proper : contentType.IsProper)
      (sound : contentType.check = .ok ()) : parse contentType.toJson = .ok contentType := by
    rw [parse_toJson proper, sound]
    rfl
  refine ⟨fun contentType proper => ⟨check?_toJson proper, again proper, ?_⟩, ?_⟩
  · intro error refused
    refine ⟨isInvalid_of_checkIds refused, ?_⟩
    rw [parse_toJson proper, refused]
    rfl
  · intro document contentType h
    obtain ⟨read, sound⟩ := parse_eq_ok h
    exact again (isProper_of_ofJson read) sound

-- Every optional text is there, a declaration holds nested values, and a type has its own name.
def located : ContentType where
  id := some "place"
  name := some "Place"
  displayField := some "title"
  fields := [
    { id := "title"
      name := some "Title"
      type := .symbol
      required := true
      validations := [
        ⟨[("message", .null), ("size", .ofPairs [("max", .ofNat 10), ("min", .null)])]⟩] },
    { id := "where", type := .other "Geo", omitted := true }]

-- The second field takes the id of the first.
def confused : ContentType where
  fields := [{ id := "title", type := .text }, { id := "title", type := .other "text" }]

theorem round_trip_located :
    (located.IsProper ∧ located.check = .ok () ∧ parse located.toJson = .ok located) ∧
    (confused.IsProper ∧ confused.check = .error (.repeatedId "title") ∧
      parse confused.toJson = .error (.repeatedId "title")) ∧
    ∃ document, parse document = .ok located ∧ parse located.toJson = .ok located := by
  have proper : located.IsProper := by unfold IsProper FieldType.IsProper; decide
  have confusedProper : confused.IsProper := by unfold IsProper FieldType.IsProper; decide
  have written := (round_trip.1 located proper).2.1 rfl
  exact ⟨⟨proper, rfl, written⟩,
    ⟨confusedProper, rfl, ((round_trip.1 confused confusedProper).2.2 _ rfl).2⟩,
    located.toJson, written, round_trip.2 _ _ written⟩

end ContentType

end Vetting
