import Vetting.Content.Basic
import Vetting.Json.Record

namespace Vetting

open Json (Record RecordShape Shaped Slot)

namespace Declaration

def toJson (declaration : Declaration) : Json := .object declaration.members

def ofJson (value : Json) : Shaped Declaration := mk <$> Json.asMembers value

end Declaration

def FieldType.ofJson (value : Json) : Shaped FieldType := ofName <$> Json.asString value

-- A member with a text, or none.
def optionalText (key : String) : Option String → Json.Members
  | some text => [(key, .string text)]
  | none => []

def optionalSlot (key : String) : Slot (Option String) :=
  ⟨key, Json.asOptional Json.asString, some none⟩

def flagSlot (key : String) : Slot Bool := ⟨key, Json.asBool, some false⟩

namespace Field

def idSlot : Slot String := ⟨"id", Json.asString, none⟩
def nameSlot : Slot (Option String) := optionalSlot "name"
def typeSlot : Slot FieldType := ⟨"type", FieldType.ofJson, none⟩
def requiredSlot : Slot Bool := flagSlot "required"
def validationsSlot : Slot (List Declaration) :=
  ⟨"validations", Json.asListOf Declaration.ofJson, some []⟩
def localizedSlot : Slot Bool := flagSlot "localized"
def disabledSlot : Slot Bool := flagSlot "disabled"
def omittedSlot : Slot Bool := flagSlot "omitted"

def shape : RecordShape where
  name := "struct FieldDefinition"
  checks := [idSlot.check, nameSlot.check, typeSlot.check, requiredSlot.check,
    validationsSlot.check, localizedSlot.check, disabledSlot.check, omittedSlot.check]

def ofRecord (record : Record) : Shaped Field := do
  return {
    id := ← record.get 0 idSlot
    name := ← record.get 1 nameSlot
    type := ← record.get 2 typeSlot
    required := ← record.get 3 requiredSlot
    validations := ← record.get 4 validationsSlot
    localized := ← record.get 5 localizedSlot
    disabled := ← record.get 6 disabledSlot
    omitted := ← record.get 7 omittedSlot }

def ofJson (value : Json) : Shaped Field := shape.read ofRecord value

def toJson (field : Field) : Json :=
  .object <|
    [("disabled", .bool field.disabled), ("id", .string field.id),
      ("localized", .bool field.localized)] ++
    optionalText "name" field.name ++
    [("omitted", .bool field.omitted), ("required", .bool field.required),
      ("type", .string field.type.name),
      ("validations", .array (field.validations.map Declaration.toJson))]

end Field

namespace ContentType

def idSlot : Slot (Option String) := optionalSlot "id"
def nameSlot : Slot (Option String) := optionalSlot "name"
def displayFieldSlot : Slot (Option String) := optionalSlot "displayField"
def fieldsSlot : Slot (List Field) := ⟨"fields", Json.asListOf Field.ofJson, none⟩

def shape : RecordShape where
  name := "struct ContentType"
  checks := [idSlot.check, nameSlot.check, displayFieldSlot.check, fieldsSlot.check]

def ofRecord (record : Record) : Shaped ContentType := do
  return {
    id := ← record.get 0 idSlot
    name := ← record.get 1 nameSlot
    displayField := ← record.get 2 displayFieldSlot
    fields := ← record.get 3 fieldsSlot }

def ofJson (value : Json) : Shaped ContentType := shape.read ofRecord value

def toJson (contentType : ContentType) : Json :=
  .object <|
    optionalText "displayField" contentType.displayField ++
    [("fields", .array (contentType.fields.map Field.toJson))] ++
    optionalText "id" contentType.id ++
    optionalText "name" contentType.name

end ContentType

end Vetting
