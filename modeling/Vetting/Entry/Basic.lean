import Vetting.Content.Basic

namespace Vetting

structure Entry where
  contentType : ContentType
  -- The values of exactly the declared fields.
  values : Json.Members
deriving Inhabited

namespace Entry

-- The entry in which no field has a value.
def empty (contentType : ContentType) : Entry where
  contentType
  values := .ofList (contentType.fieldIds.map fun id => (id, .null))

-- The value of a field, null if it was never set; none for a field that is not declared.
def value? (entry : Entry) (id : String) : Option Json := entry.values.get? id

-- The entry with another value for a field; none for a field that is not declared.
def set? (entry : Entry) (id : String) (value : Json) : Option Entry :=
  if entry.values.contains id then some { entry with values := entry.values.insert id value }
  else none

-- The entry with some values; those of other fields are left out.
def ofValues (contentType : ContentType) (values : Json.Members) : Entry where
  contentType
  values := (empty contentType).values.fill values

end Entry

namespace EntryDocument

-- The object that holds the values: the one under `fields`, unless the content type declares a
-- field of that name.
def unwrap (contentType : ContentType) (document : Json.Members) : Json.Members :=
  match contentType.field? "fields", document.get? "fields" with
  | none, some (.object fields) => fields
  | _, _ => document

-- The value for a locale. An object without the locale has none; other values are for all.
def localize (locale : String) : Json → Json
  | .object values => (Json.Members.get? values locale).getD .null
  | value => value

-- The values of a document by field; none if it is no object.
def values? (contentType : ContentType) (locale : Option String) :
    Json → Option Json.Members
  | .object document =>
    let values := unwrap contentType document
    match locale with
    | none => some values
    | some locale => some (values.map fun (id, value) => (id, localize locale value))
  | _ => none

end EntryDocument

end Vetting
