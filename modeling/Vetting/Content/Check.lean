import Vetting.Content.Document
import Vetting.Content.Schema
import Vetting.Text.Basic

namespace Vetting

inductive ContentError where
  -- The document violates the published schema.
  | violation (violation : Schema.Violation)
  | emptyId (index : Nat)
  | repeatedId (id : String)
  -- The schema to check against is none.
  | badSchema
  | shape (error : Json.ShapeError)
deriving Inhabited

def ContentError.message : ContentError → String
  | violation v => s!"invalid schema: schema_violation at {v.pointer}: {v.message}"
  | emptyId index => s!"invalid schema: field {index} has an empty id"
  | repeatedId id => s!"invalid schema: duplicate field id: {id}"
  | badSchema => "schema error: not a schema"
  | shape error => s!"json error: {error.message}"

namespace ContentType

-- Checks the ids from a place in the list of fields on, after those already seen.
def checkIds (seen : List String) (index : Nat) : List Field → Except ContentError Unit
  | [] => .ok ()
  | field :: rest =>
    if Text.isBlankText field.id then .error (.emptyId index)
    else if seen.contains field.id then .error (.repeatedId field.id)
    else checkIds (field.id :: seen) (index + 1) rest

-- Every id must have a character that is not blank, and no two fields may share one.
def check (contentType : ContentType) : Except ContentError Unit :=
  checkIds [] 0 contentType.fields

-- Reads a content type without the published schema, and checks it.
def ofJsonChecked (document : Json) : Except ContentError ContentType := do
  let contentType ← (ofJson document).mapError .shape
  contentType.check
  return contentType

-- Reads a content type from a document: its structure is checked first, then its ids.
def parse (document : Json) : Except ContentError ContentType :=
  match Schema.check? schemaDocument document with
  | none => .error .badSchema
  | some (violation :: _) => .error (.violation violation)
  | some [] => ofJsonChecked document

end ContentType

end Vetting
