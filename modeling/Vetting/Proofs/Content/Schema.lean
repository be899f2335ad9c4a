import Vetting.Content.Check
import Vetting.Proofs.Content.Document
import Vetting.Proofs.Schema.Admission

namespace Vetting

open Json (Readable)
open Schema (Admits TypeName)

def Json.IsObject (value : Json) : Prop := ∃ members, value = .object members

namespace ContentType

-- A schema that asks for one of some types.
def oneOf (types : List TypeName) : Schema := .keywords none [] [] types

def listOf (item : Schema) : Schema := .keywords (some item) [] [] [.array]

def definition (name : String) : Schema := .reference (some ["definitions", name])

def recordOf (properties : List (String × Schema)) (required : List String) : Schema :=
  .keywords none properties required [.object]

def fieldProperties : List (String × Schema) :=
  [("disabled", oneOf [.boolean]), ("id", oneOf [.string]), ("localized", oneOf [.boolean]),
    ("name", oneOf [.string, .null]), ("omitted", oneOf [.boolean]),
    ("required", oneOf [.boolean]), ("type", definition "FieldType"),
    ("validations", listOf (oneOf [.object]))]

def properties : List (String × Schema) :=
  [("displayField", oneOf [.string, .null]), ("fields", listOf (definition "FieldDefinition")),
    ("id", oneOf [.string, .null]), ("name", oneOf [.string, .null])]

theorem check?_schemaDocument (document : Json) :
    Schema.check? schemaDocument document =
      some (Schema.violations schemaDocument (recordOf properties ["fields"]) document) := rfl

theorem follow_fieldDefinition : Schema.follow schemaDocument (definition "FieldDefinition") =
    some (recordOf fieldProperties ["id", "type"]) := Schema.follow_reference rfl rfl

theorem follow_fieldType :
    Schema.follow schemaDocument (definition "FieldType") = some (oneOf [.string]) :=
  Schema.follow_reference rfl rfl

-- A schema and a reader accept the same values.
def Agree {α : Type} (schema : Schema) (read : Json → Json.Shaped α) : Prop :=
  ∀ value, Admits schemaDocument schema value ↔ Readable read value

theorem agree_text : Agree (oneOf [.string]) Json.asString := by
  intro value
  rw [oneOf, Schema.admits_types_iff]
  cases value <;> simp [TypeName.admits, Readable, Json.asString]

theorem agree_optionalText :
    Agree (oneOf [.string, .null]) (Json.asOptional Json.asString) := by
  intro value
  rw [oneOf, Schema.admits_types_iff]
  cases value <;> simp [TypeName.admits, Readable, Json.asString, Json.asOptional]

theorem agree_flag : Agree (oneOf [.boolean]) Json.asBool := by
  intro value
  rw [oneOf, Schema.admits_types_iff]
  cases value <;> simp [TypeName.admits, Readable, Json.asBool]

theorem agree_declaration : Agree (oneOf [.object]) Declaration.ofJson := by
  intro value
  unfold Declaration.ofJson
  rw [oneOf, Schema.admits_types_iff, Json.readable_map_iff]
  cases value <;> simp [TypeName.admits, Readable, Json.asMembers]

theorem agree_type : Agree (definition "FieldType") FieldType.ofJson := by
  intro value
  unfold FieldType.ofJson
  rw [definition, Schema.admits_reference_iff follow_fieldType, Json.readable_map_iff]
  exact agree_text value

theorem admits_listOf_iff {item : Schema} {value : Json} :
    Admits schemaDocument (listOf item) value ↔
      ∃ items, value = .array items ∧ ∀ given ∈ items, Admits schemaDocument item given := by
  constructor
  · intro h
    cases value with
    | array items => exact ⟨items, rfl, (Schema.admits_array_iff.mp h).1 item rfl⟩
    | _ => simpa [TypeName.admits] using Schema.exists_admits_of_admits h
  · rintro ⟨items, rfl, h⟩
    refine Schema.admits_array_iff.mpr ⟨?_, .inr ⟨.array, by simp, rfl⟩⟩
    intro schema hs
    exact Option.some.inj hs ▸ h

theorem agree_listOf {α : Type} {item : Schema} {read : Json → Json.Shaped α}
    (h : Agree item read) : Agree (listOf item) (Json.asListOf read) := by
  intro value
  rw [admits_listOf_iff, Json.readable_asListOf_iff]
  exact exists_congr fun items => and_congr_right fun _ => forall₂_congr fun given _ => h given

-- Whether a record is admitted is decided member by member, and no value but an object is one.
theorem admits_recordOf_iff {entries : List (String × Schema)} {required : List String}
    {value : Json} :
    Admits schemaDocument (recordOf entries required) value ↔
      ∃ members, value = .object members ∧
        (∀ member ∈ members, ∀ schema, entries.lookup member.1 = some schema →
          Admits schemaDocument schema member.2) ∧
        ∀ key ∈ required, Json.Members.contains members key = true := by
  constructor
  · intro h
    cases value with
    | object members =>
      obtain ⟨hmembers, hrequired, _⟩ := Schema.admits_object_iff.mp h
      exact ⟨members, rfl, hmembers, hrequired⟩
    | _ => simpa [TypeName.admits] using Schema.exists_admits_of_admits h
  · rintro ⟨members, rfl, hmembers, hrequired⟩
    exact Schema.admits_object_iff.mpr ⟨hmembers, hrequired, .inr ⟨.object, by simp, rfl⟩⟩

-- A member of a field violates nothing exactly if it suits the field.
theorem fieldMember_iff (key : String) (value : Json) :
    (∀ schema, fieldProperties.lookup key = some schema → Admits schemaDocument schema value) ↔
      ∀ check, Field.shape.checks.lookup key = some check → Readable check value := by
  rw [Json.Members.forall_lookup_iff (by decide), Json.Members.forall_lookup_iff (by decide)]
  simp only [fieldProperties, Field.shape, List.forall_mem_cons, List.not_mem_nil,
    IsEmpty.forall_iff, implies_true, and_true, agree_text value, agree_flag value,
    agree_optionalText value, agree_type value, agree_listOf agree_declaration value,
    Json.readable_check_iff]
  constructor
  · rintro ⟨disabled, id, localized, name, omitted, required, type, validations⟩
    exact ⟨id, name, type, required, validations, localized, disabled, omitted⟩
  · rintro ⟨id, name, type, required, validations, localized, disabled, omitted⟩
    exact ⟨disabled, id, localized, name, omitted, required, type, validations⟩

theorem admits_field_iff {value : Json} :
    Admits schemaDocument (definition "FieldDefinition") value ↔
      value.IsObject ∧ Readable Field.ofJson value := by
  rw [definition, Schema.admits_reference_iff follow_fieldDefinition]
  rw [← recordOf, admits_recordOf_iff]
  constructor
  · rintro ⟨members, rfl, hmembers, hrequired⟩
    refine ⟨⟨members, rfl⟩, Field.readable_object_iff.mpr ⟨?_, hrequired⟩⟩
    exact fun member hm => (fieldMember_iff _ _).mp (hmembers member hm)
  · rintro ⟨⟨members, rfl⟩, h⟩
    obtain ⟨suits, hrequired⟩ := Field.readable_object_iff.mp h
    exact ⟨members, rfl, fun member hm => (fieldMember_iff _ _).mpr (suits member hm), hrequired⟩

-- Every item of a list is an object.
def ObjectsOnly (value : Json) : Prop :=
  ∀ items, value = .array items → ∀ item ∈ items, item.IsObject

theorem admits_fields_iff {value : Json} :
    Admits schemaDocument (listOf (definition "FieldDefinition")) value ↔
      ObjectsOnly value ∧ Readable (Json.asListOf Field.ofJson) value := by
  rw [admits_listOf_iff, Json.readable_asListOf_iff]
  simp only [admits_field_iff]
  constructor
  · rintro ⟨items, rfl, h⟩
    refine ⟨?_, items, rfl, fun item hi => (h item hi).2⟩
    rintro _ ⟨⟩ item hi
    exact (h item hi).1
  · rintro ⟨objects, items, rfl, h⟩
    exact ⟨items, rfl, fun item hi => ⟨objects items rfl item hi, h item hi⟩⟩

-- A member of a content type violates nothing exactly if it suits the content type, and it is no
-- list of fields with a record that is given as an array.
theorem member_iff (key : String) (value : Json) :
    (∀ schema, properties.lookup key = some schema → Admits schemaDocument schema value) ↔
      (key = "fields" → ObjectsOnly value) ∧
        ∀ check, shape.checks.lookup key = some check → Readable check value := by
  rw [Json.Members.forall_lookup_iff (by decide), Json.Members.forall_lookup_iff (by decide)]
  simp only [properties, shape, List.forall_mem_cons, List.not_mem_nil, IsEmpty.forall_iff,
    implies_true, and_true, agree_optionalText value, admits_fields_iff, Json.readable_check_iff]
  constructor
  · rintro ⟨displayField, fields, id, name⟩
    exact ⟨fun hk => (fields hk.symm).1, id, name, displayField, fun hk => (fields hk).2⟩
  · rintro ⟨objects, id, name, displayField, fields⟩
    exact ⟨displayField, fun hk => ⟨objects hk.symm, fields hk⟩, id, name⟩

-- The records in a document are given as objects: the document itself, and each of its fields. An
-- object has one member with a key.
def GivenAsObjects (document : Json) : Prop :=
  ∃ members, document = .object members ∧
    ∀ items, ("fields", .array items) ∈ members → ∀ item ∈ items, item.IsObject

theorem check?_eq_nil_iff (document : Json) :
    Schema.check? schemaDocument document = some [] ↔
      Readable ofJson document ∧ GivenAsObjects document := by
  rw [check?_schemaDocument, Option.some.injEq]
  refine Iff.trans admits_recordOf_iff ?_
  constructor
  · rintro ⟨members, rfl, hmembers, hrequired⟩
    have split := fun member hm => (member_iff _ _).mp (hmembers member hm)
    refine ⟨readable_object_iff.mpr ⟨fun member hm => (split member hm).2, hrequired⟩, members, rfl,
      fun items hitems => ?_⟩
    exact (split _ hitems).1 rfl items rfl
  · rintro ⟨readable, members, rfl, objects⟩
    obtain ⟨suits, hrequired⟩ := readable_object_iff.mp readable
    refine ⟨members, rfl, fun member hm => (member_iff _ _).mpr ⟨?_, suits member hm⟩, hrequired⟩
    rintro hk items hitems
    exact objects items (hk ▸ hitems ▸ hm)

end ContentType

-- The content type is not valid: it violates the schema, or an id is blank or repeated. The other
-- errors tell of a schema that is none, or of a valid document that could not be read.
def ContentError.isInvalid : ContentError → Bool
  | .violation _ | .emptyId _ | .repeatedId _ => true
  | .badSchema | .shape _ => false

namespace ContentType

theorem isInvalid_of_checkIds {fields : List Field} {seen : List String} {index : Nat}
    {error : ContentError} (h : checkIds seen index fields = .error error) :
    error.isInvalid = true := by
  induction fields generalizing seen index with
  | nil => cases h
  | cons field rest ih =>
    rw [checkIds] at h
    split at h
    · cases h; rfl
    split at h
    · cases h; rfl
    · exact ih h

-- A document that violates nothing is read, so that only its ids are left to check.
theorem parse_of_check?_eq_nil {document : Json}
    (h : Schema.check? schemaDocument document = some []) :
    ∃ contentType, ofJson document = .ok contentType ∧
      parse document = do contentType.check; return contentType := by
  obtain ⟨⟨contentType, read⟩, _⟩ := (check?_eq_nil_iff document).mp h
  refine ⟨contentType, read, ?_⟩
  unfold parse ofJsonChecked
  rw [h, read]
  rfl

theorem parse_eq_ok {document : Json} {contentType : ContentType}
    (h : parse document = .ok contentType) :
    ofJson document = .ok contentType ∧ contentType.check = .ok () := by
  unfold parse at h
  split at h
  · cases h
  · cases h
  · obtain ⟨read, hread, h⟩ := Outcome.bind_eq_ok.mp h
    obtain ⟨_, hcheck, h⟩ := Outcome.bind_eq_ok.mp h
    cases h
    exact ⟨Outcome.mapError_eq_ok.mp hread, hcheck⟩

-- The schema is violated by nothing that can be read from objects, and by everything else, so a
-- content type is refused as invalid or read as it stands.
theorem schema_agrees_with_reader :
    (∀ document, Schema.check? schemaDocument document = some [] ↔
      (∃ contentType, ofJson document = .ok contentType) ∧ GivenAsObjects document) ∧
    ∀ document,
      (∃ error, parse document = .error error ∧ error.isInvalid = true) ∨
      ∃ contentType, parse document = .ok contentType ∧ ofJson document = .ok contentType := by
  refine ⟨check?_eq_nil_iff, fun document => ?_⟩
  cases hv : Schema.violations schemaDocument (recordOf properties ["fields"]) document with
  | cons violation rest =>
    refine .inl ⟨.violation violation, ?_, rfl⟩
    unfold parse
    rw [check?_schemaDocument, hv]
  | nil =>
    obtain ⟨contentType, read, parsed⟩ := parse_of_check?_eq_nil
      ((check?_schemaDocument document).trans (congrArg some hv))
    rw [parsed]
    cases hc : contentType.check with
    | error error => exact .inl ⟨error, rfl, isInvalid_of_checkIds hc⟩
    | ok _ => exact .inr ⟨contentType, rfl, read⟩

end ContentType

end Vetting
