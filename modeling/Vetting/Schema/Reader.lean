import Vetting.Json.Printer
import Vetting.Schema.Basic
import Vetting.Text.Basic

namespace Vetting

namespace Schema

-- A key inside a pointer is written with `~1` for a slash and `~0` for a tilde.
def unescapeKey : List Char → List Char
  | '~' :: '1' :: rest => '/' :: unescapeKey rest
  | '~' :: '0' :: rest => '~' :: unescapeKey rest
  | c :: rest => c :: unescapeKey rest
  | [] => []

-- The keys of a reference into its own document: `#`, then a slash before each key.
def placeOfReference (text : String) : Option (List String) :=
  match text.toList with
  | ['#'] => some []
  | '#' :: '/' :: rest =>
    some ((Text.splitOn (· == '/') rest).map fun key => String.ofList (unescapeKey key))
  | _ => none

-- The types that a `type` keyword names: one, or a list of distinct ones that is not empty.
def typesOf? : Json → Option (List TypeName)
  | .string name => (TypeName.ofName? name).map ([·])
  | .array items => do
    let types ← items.mapM fun item => item.string?.bind TypeName.ofName?
    if types.isEmpty || !decide types.Nodup then none else some types
  | _ => none

-- The keys that a `required` keyword names, all different.
def requiredOf? : Json → Option (List String)
  | .array items => do
    let keys ← items.mapM Json.string?
    if decide keys.Nodup then some keys else none
  | _ => none

-- The keywords of a schema as far as they have been read.
structure Keywords where
  reference : Option String := none
  items : Option Schema := none
  properties : List (String × Schema) := []
  required : List String := []
  types : List TypeName := []

def Keywords.toSchema (keywords : Keywords) : Schema :=
  match keywords.reference with
  | some text => .reference (placeOfReference text)
  | none => .keywords keywords.items keywords.properties keywords.required keywords.types

mutual

-- A schema with a keyword of the wrong shape is none at all. Unknown keywords are ignored, and a
-- reference stands for all its neighbours.
def ofJson? : Json → Option Schema
  | .bool true => some .anything
  | .bool false => some .nothing
  | .object members => Keywords.toSchema <$> readKeywords members
  | _ => none

def readKeywords : List (String × Json) → Option Keywords
  | [] => some {}
  | (key, value) :: rest => do
    let keywords ← readKeywords rest
    match key with
    | "$ref" => return { keywords with reference := some (← value.string?) }
    | "definitions" =>
      let _ ← readNamed value
      return keywords
    | "items" => return { keywords with items := some (← ofJson? value) }
    | "properties" => return { keywords with properties := ← readNamed value }
    | "required" => return { keywords with required := ← requiredOf? value }
    | "type" => return { keywords with types := ← typesOf? value }
    | _ => return keywords

-- The members of an object, each of which must be a schema.
def readNamed : Json → Option (List (String × Schema))
  | .object members => readMembers members
  | _ => none

def readMembers : List (String × Json) → Option (List (String × Schema))
  | [] => some []
  | (key, value) :: rest => do
    let schema ← ofJson? value
    let schemas ← readMembers rest
    return (key, schema) :: schemas

end

-- The value at the place in a document to which some keys lead.
def valueAt? (value : Json) : List String → Option Json
  | [] => some value
  | key :: rest => (value.get? key).bind fun inner => valueAt? inner rest

-- Follows references from a schema of a document, at most so many.
def followFrom (document : Json) : Nat → Schema → Option Schema
  | 0, .reference _ => none
  | limit + 1, .reference place => do
    let value ← valueAt? document (← place)
    followFrom document limit (← ofJson? value)
  | _, schema => some schema

-- The schema that a schema stands for. A document has fewer places than its text has characters,
-- so a longer chain of references goes round in a circle.
def follow (document : Json) : Schema → Option Schema
  | .reference place => followFrom document document.compact.length (.reference place)
  | schema => some schema

end Schema

end Vetting
