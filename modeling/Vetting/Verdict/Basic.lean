import Vetting.Json.Record

namespace Vetting

open Json (Record RecordShape Shaped Slot)

structure FieldVerdict where
  fieldId : String
  valid : Bool
  -- The number of checks that were applied.
  checked : Nat
  -- The positions of the checks that did not pass, from zero.
  failed : List Nat := []
deriving DecidableEq, Repr, Inhabited

structure Verdict where
  valid : Bool
  -- In the order of the content type.
  fields : List FieldVerdict
deriving DecidableEq, Repr, Inhabited

namespace FieldVerdict

def fieldIdSlot : Slot String := ⟨"field_id", Json.asString, none⟩
def validSlot : Slot Bool := ⟨"valid", Json.asBool, none⟩
def checkedSlot : Slot Nat := ⟨"checked", Json.asNat, none⟩
def failedSlot : Slot (List Nat) := ⟨"failed", Json.asListOf Json.asNat, some []⟩

def shape : RecordShape where
  name := "struct FieldVerdict"
  checks := [fieldIdSlot.check, validSlot.check, checkedSlot.check, failedSlot.check]

def ofRecord (record : Record) : Shaped FieldVerdict := do
  return {
    fieldId := ← record.get 0 fieldIdSlot
    valid := ← record.get 1 validSlot
    checked := ← record.get 2 checkedSlot
    failed := ← record.get 3 failedSlot }

def ofJson (value : Json) : Shaped FieldVerdict := shape.read ofRecord value

-- No failures are left out.
def toJson (verdict : FieldVerdict) : Json :=
  .object <|
    [("checked", .ofNat verdict.checked)] ++
    (if verdict.failed.isEmpty then []
      else [("failed", .array (verdict.failed.map Json.ofNat))]) ++
    [("field_id", .string verdict.fieldId), ("valid", .bool verdict.valid)]

end FieldVerdict

namespace Verdict

-- An entry is valid if all its fields are.
def ofFields (fields : List FieldVerdict) : Verdict := ⟨fields.all (·.valid), fields⟩

-- The verdict on the first field with an id.
def field? (verdict : Verdict) (id : String) : Option FieldVerdict :=
  verdict.fields.find? (·.fieldId == id)

def failedFields (verdict : Verdict) : List FieldVerdict := verdict.fields.filter (!·.valid)

def validSlot : Slot Bool := ⟨"valid", Json.asBool, none⟩
def fieldsSlot : Slot (List FieldVerdict) := ⟨"fields", Json.asListOf FieldVerdict.ofJson, none⟩

def shape : RecordShape where
  name := "struct Verdict"
  checks := [validSlot.check, fieldsSlot.check]

def ofRecord (record : Record) : Shaped Verdict := do
  return { valid := ← record.get 0 validSlot, fields := ← record.get 1 fieldsSlot }

def ofJson (value : Json) : Shaped Verdict := shape.read ofRecord value

def toJson (verdict : Verdict) : Json :=
  .object [("fields", .array (verdict.fields.map FieldVerdict.toJson)),
    ("valid", .bool verdict.valid)]

end Verdict

end Vetting
