import Vetting.Rule.Check
import Vetting.Toml.Reader

namespace Vetting

inductive LogFormat where
  | text
  | json
deriving DecidableEq, Repr, Inhabited

namespace LogFormat

def name : LogFormat → String
  | text => "text"
  | json => "json"

def ofName? (name : String) : Option LogFormat := [text, json].find? (·.name == name)

end LogFormat

structure Settings where
  options : Options := {}
  logLevel : String := "info"
  logFormat : LogFormat := .text
deriving DecidableEq, Repr, Inhabited

namespace Settings

open Toml (Members Value)

private def flag? (key : String) (members : Members) (default : Bool) : Option Bool :=
  match members.lookup key with
  | none => some default
  | some (.boolean value) => some value
  | some _ => none

private def text? (key : String) (members : Members) (default : String) : Option String :=
  match members.lookup key with
  | none => some default
  | some (.string text) => some text
  | some _ => none

private def isEmptyValue : Value → Bool
  | .array [] => true
  | .table _ [] => true
  | _ => false

-- A format by its name, or by an empty member of that name.
private def logFormatOf? : Value → Option LogFormat
  | .string name => LogFormat.ofName? name
  | .table _ [(name, value)] => if isEmptyValue value then LogFormat.ofName? name else none
  | _ => none

-- The settings that the members of a document give. Unknown members are ignored.
def ofMembers? (members : Members) : Option Settings := do
  let standard : Settings := {}
  let zeroBoundIsAbsent ←
    flag? "zero_bound_is_absent" members standard.options.zeroBoundIsAbsent
  let nullRangeIsZero ←
    flag? "null_range_value_is_zero" members standard.options.nullRangeIsZero
  let logLevel ← text? "log_level" members standard.logLevel
  let logFormat ←
    match members.lookup "log_format" with
    | none => some standard.logFormat
    | some value => logFormatOf? value
  return { options := { zeroBoundIsAbsent, nullRangeIsZero }, logLevel, logFormat }

def parse (text : String) : Option Settings := (Toml.parse text).bind ofMembers?

end Settings

end Vetting
