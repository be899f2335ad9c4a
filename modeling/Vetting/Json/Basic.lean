import Vetting.Number.Double

namespace Vetting

-- A number written as a 64-bit integer stays exact, any other is a double.
inductive Number where
  | integer (value : Int)
  | double (value : Double)
deriving DecidableEq, Inhabited

namespace Number

def toDouble : Number → Double
  | integer value => Double.ofInt value
  | double value => value

end Number

inductive Json where
  | null
  | bool (value : Bool)
  | number (value : Number)
  | string (value : String)
  | array (items : List Json)
  | object (members : List (String × Json))
deriving Inhabited

namespace Json

-- Members sorted by key. A repeated key keeps its last value.
abbrev Members := List (String × Json)

namespace Members

def get? (members : Members) (key : String) : Option Json := members.lookup key

def contains (members : Members) (key : String) : Bool := (get? members key).isSome

-- Adds a member at its place in key order, or replaces the value of one with the same key.
def insert (key : String) (value : Json) : Members → Members
  | [] => [(key, value)]
  | (k, v) :: rest =>
    if key < k then (key, value) :: (k, v) :: rest
    else if key == k then (key, value) :: rest
    else (k, v) :: insert key value rest

def ofList (pairs : List (String × Json)) : Members :=
  pairs.foldl (fun members (key, value) => insert key value members) []

-- Puts values in the places that there are. A value without a place is left out.
def fill (members : Members) (values : List (String × Json)) : Members :=
  values.foldl
    (fun current (key, value) => if current.contains key then current.insert key value else current)
    members

def keys (members : Members) : List String := members.map (·.1)

end Members

def ofInt (i : Int) : Json := number (.integer i)

def ofNat (n : Nat) : Json := ofInt n

-- The object with the given members, in any order.
def ofPairs (pairs : List (String × Json)) : Json := object (Members.ofList pairs)

def strings (texts : List String) : Json := array (texts.map string)

-- The name of a value's type.
def kind : Json → String
  | null => "null"
  | bool _ => "boolean"
  | number _ => "number"
  | string _ => "string"
  | array _ => "array"
  | object _ => "object"

-- The member of an object; none for any other value.
def get? (value : Json) (key : String) : Option Json :=
  match value with
  | object members => Members.get? members key
  | _ => none

def string? : Json → Option String
  | string s => some s
  | _ => none

end Json

end Vetting
