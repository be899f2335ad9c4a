import Vetting.Content.FieldType
import Vetting.Json.Basic

namespace Vetting

-- One declared validation, uninterpreted: configurations by the key of their kind.
structure Declaration where
  members : Json.Members
deriving Inhabited

namespace Declaration

-- The key under which a declaration carries a text for its reader; it declares nothing.
def messageKey : String := "message"

def single (kind : String) (config : Json) : Declaration := ⟨[(kind, config)]⟩

def get? (declaration : Declaration) (kind : String) : Option Json :=
  declaration.members.get? kind

def contains (declaration : Declaration) (kind : String) : Bool :=
  declaration.members.contains kind

-- The declared keys in order, without the one of the message.
def kinds (declaration : Declaration) : List String :=
  declaration.members.keys.filter (· != messageKey)

-- The message, if it is a text.
def message? (declaration : Declaration) : Option String :=
  (declaration.get? messageKey).bind Json.string?

end Declaration

structure Field where
  id : String
  name : Option String := none
  type : FieldType
  required : Bool := false
  -- In the order in which they are declared.
  validations : List Declaration := []
  localized : Bool := false
  disabled : Bool := false
  omitted : Bool := false
deriving Inhabited

structure ContentType where
  id : Option String := none
  name : Option String := none
  -- The field that serves as the title of an entry.
  displayField : Option String := none
  fields : List Field
deriving Inhabited

namespace ContentType

-- The first field with an id.
def field? (contentType : ContentType) (id : String) : Option Field :=
  contentType.fields.find? (·.id == id)

def fieldIds (contentType : ContentType) : List String := contentType.fields.map (·.id)

end ContentType

end Vetting
