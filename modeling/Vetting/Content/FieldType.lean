namespace Vetting

inductive FieldType where
  | symbol
  | text
  | richText
  | integer
  | float
  | boolean
  | date
  | location
  | object
  | link
  | array
  -- A type with a name of its own, which is kept as it is written.
  | other (name : String)
deriving DecidableEq, Repr, Inhabited

namespace FieldType

def name : FieldType → String
  | symbol => "Symbol"
  | text => "Text"
  | richText => "RichText"
  | integer => "Integer"
  | float => "Float"
  | boolean => "Boolean"
  | date => "Date"
  | location => "Location"
  | object => "Object"
  | link => "Link"
  | array => "Array"
  | other name => name

-- The types with a fixed name.
def known : List FieldType :=
  [symbol, text, richText, integer, float, boolean, date, location, object, link, array]

def ofName (name : String) : FieldType := (known.find? (·.name == name)).getD (other name)

def isKnown : FieldType → Bool
  | other _ => false
  | _ => true

-- Short and long texts share the checks on texts.
def isStringLike : FieldType → Bool
  | symbol | text => true
  | _ => false

def isNumeric : FieldType → Bool
  | integer | float => true
  | _ => false

end FieldType

end Vetting
