import Vetting.Json.Basic

namespace Vetting

namespace Schema

inductive TypeName where
  | array
  | boolean
  | integer
  | null
  | number
  | object
  | string
deriving DecidableEq, Repr, Inhabited

namespace TypeName

def name : TypeName → String
  | array => "array"
  | boolean => "boolean"
  | integer => "integer"
  | null => "null"
  | number => "number"
  | object => "object"
  | string => "string"

-- All types, in the order of their names.
def all : List TypeName := [array, boolean, integer, null, number, object, string]

def ofName? (name : String) : Option TypeName := all.find? (·.name == name)

-- Whether a value has the type. A double without a fraction is an integer too.
def admits : TypeName → Json → Bool
  | array, .array _ => true
  | boolean, .bool _ => true
  | integer, .number (.integer _) => true
  | integer, .number (.double d) => d.isWhole
  | null, .null => true
  | number, .number _ => true
  | object, .object _ => true
  | string, .string _ => true
  | _, _ => false

end TypeName

end Schema

inductive Schema where
  -- Admits every value.
  | anything
  -- Admits no value.
  | nothing
  -- The schema at a place of the schema document, given by the keys that lead to it; none for a
  -- reference that leaves the document.
  | reference (place : Option (List String))
  -- An absent keyword requires nothing.
  | keywords (items : Option Schema) (properties : List (String × Schema))
      (required : List String) (types : List Schema.TypeName)
deriving Inhabited

end Vetting
