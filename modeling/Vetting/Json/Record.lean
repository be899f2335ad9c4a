import Vetting.Json.Shape

namespace Vetting.Json

-- A field of a record: its key, how its value is read, and what it is when absent.
structure Slot (α : Type) where
  key : String
  read : Json → Shaped α
  absent : Option α

-- The key of a field, and whether a value suits it.
def Slot.check {α : Type} (slot : Slot α) : String × (Json → Shaped Unit) :=
  (slot.key, fun value => discard (slot.read value))

-- What a record is called in messages, and its fields in declaration order.
structure RecordShape where
  name : String
  checks : List (String × (Json → Shaped Unit))

-- The values given for the fields of a record.
inductive Record where
  | named (members : Members)
  | listed (shape : RecordShape) (items : List Json)

namespace Record

-- Reads the field at a place of the declaration.
def get {α : Type} (record : Record) (index : Nat) (slot : Slot α) : Shaped α :=
  match record with
  | named members =>
    match members.get? slot.key, slot.absent with
    | some value, _ => slot.read value
    | none, some default => .ok default
    | none, none => .error (.missing slot.key)
  | listed shape items =>
    match items[index]?, slot.absent with
    | some value, _ => slot.read value
    | none, some default => .ok default
    | none, none =>
      .error (.wrongLength index s!"{shape.name} with {shape.checks.length} elements")

end Record

namespace RecordShape

-- Every member with a known key must suit it. The first bad one in key order is reported, before
-- any missing field.
def checkMembers (shape : RecordShape) : Members → Shaped Unit
  | [] => .ok ()
  | (key, value) :: rest =>
    match shape.checks.lookup key with
    | some check => do
      check value
      checkMembers shape rest
    | none => checkMembers shape rest

-- Reads a record, whose fields `build` puts together. Unknown members are ignored, but an array
-- must not be longer than the declaration.
def read {α : Type} (shape : RecordShape) (build : Record → Shaped α) : Json → Shaped α
  | object members => do
    shape.checkMembers members
    build (.named members)
  | array items => do
    let result ← build (.listed shape items)
    if shape.checks.length < items.length then
      .error (.wrongLength items.length "fewer elements in array")
    else .ok result
  | value => .error (.wrongType value shape.name)

end RecordShape

end Vetting.Json
