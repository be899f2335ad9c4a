import Vetting.Schema.Check

namespace Vetting.ContentType

def typed (name : String) : String × Json := ("type", .string name)

def described (text : String) : String × Json := ("description", .string text)

def referring (place : String) : Json := .object [("$ref", .string place)]

def orNull (name : String) : String × Json := ("type", Json.strings [name, "null"])

-- A flag that is off unless it is given.
def flagSchema : Json := .object [("default", .bool false), typed "boolean"]

def declarationSchema : Json := .object [typed "object", ("additionalProperties", .bool true)]

def fieldSchema : Json :=
  .object
    [described "One named, typed attribute of an entry together with its declared validations.",
     typed "object",
     ("required", Json.strings ["id", "type"]),
     ("properties", .object
      [("disabled", flagSchema),
       ("id", .object [typed "string"]),
       ("localized", flagSchema),
       ("name", .object [orNull "string"]),
       ("omitted", flagSchema),
       ("required", flagSchema),
       ("type", referring "#/definitions/FieldType"),
       ("validations", .object
        [described "Validation declarations in the order they appear on the schema.",
         ("default", .array []),
         typed "array",
         ("items", declarationSchema)])])]

-- The published schema. Its members stand in the order in which it is printed, so they are not
-- sorted by key.
def schemaDocument : Json :=
  .object
    [("$schema", .string "http://json-schema.org/draft-07/schema#"),
     ("title", .string "ContentType"),
     described "Content type snapshot as delivered by the host.",
     typed "object",
     ("required", Json.strings ["fields"]),
     ("properties", .object
      [("displayField", .object [described "Field id used as the entry title.", orNull "string"]),
       ("fields", .object
        [described "Fields in schema order.",
         typed "array",
         ("items", referring "#/definitions/FieldDefinition")]),
       ("id", .object
        [described "Content type identifier when the host provides one.", orNull "string"]),
       ("name", .object [described "Display name of the content type.", orNull "string"])]),
     ("definitions", .object
      [("FieldDefinition", fieldSchema),
       ("FieldType", .object [typed "string"])])]

end Vetting.ContentType
