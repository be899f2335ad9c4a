import Vetting.Json.Printer
import Vetting.Text.Printable

namespace Vetting.Json

-- Why a value does not have the wanted shape.
inductive ShapeError where
  | wrongType (found : Json) (expected : String)
  | wrongValue (found : Json) (expected : String)
  | missing (field : String)
  | repeated (field : String)
  -- An array with this many elements, where something else was expected.
  | wrongLength (length : Nat) (expected : String)
deriving Inhabited

-- A value as it is named in a message about its shape.
def found : Json → String
  | null => "null"
  | bool true => "boolean `true`"
  | bool false => "boolean `false`"
  | number (.integer i) => s!"integer `{i}`"
  | number (.double d) => s!"floating point `{Layout.echo.text d}`"
  | string s => s!"string {Text.quoted s}"
  | array _ => "sequence"
  | object _ => "map"

def ShapeError.message : ShapeError → String
  | wrongType value expected => s!"invalid type: {value.found}, expected {expected}"
  | wrongValue value expected => s!"invalid value: {value.found}, expected {expected}"
  | missing field => s!"missing field `{field}`"
  | repeated field => s!"duplicate field `{field}`"
  | wrongLength length expected => s!"invalid length {length}, expected {expected}"

abbrev Shaped := Except ShapeError

def asString : Json → Shaped String
  | string s => .ok s
  | value => .error (.wrongType value "a string")

def asBool : Json → Shaped Bool
  | bool b => .ok b
  | value => .error (.wrongType value "a boolean")

def asMembers : Json → Shaped Members
  | object members => .ok members
  | value => .error (.wrongType value "a map")

-- Every element of an array, read in order.
def asListOf {α : Type} (read : Json → Shaped α) : Json → Shaped (List α)
  | array items => items.mapM read
  | value => .error (.wrongType value "a sequence")

-- Any number, rounded to a double.
def asDouble : Json → Shaped Double
  | number n => .ok n.toDouble
  | value => .error (.wrongType value "f64")

-- An integer that is not negative.
def asNat : Json → Shaped Nat
  | number (.integer i) =>
    if 0 ≤ i then .ok i.toNat else .error (.wrongValue (ofInt i) "usize")
  | value => .error (.wrongType value "usize")

-- Null stands for an absent value.
def asOptional {α : Type} (read : Json → Shaped α) : Json → Shaped (Option α)
  | null => .ok none
  | value => some <$> read value

end Vetting.Json
