import Vetting.Content.FieldType
import Vetting.Pattern.Basic
import Vetting.Rule.Bounds

namespace Vetting

open Json (Record RecordShape Shaped Slot)

inductive RuleKind where
  | unique
  | size
  | prohibitRegexp
  | range
deriving DecidableEq, Repr, Inhabited

namespace RuleKind

-- The key under which a declaration holds the configuration.
def key : RuleKind → String
  | unique => "unique"
  | size => "size"
  | prohibitRegexp => "prohibitRegexp"
  | range => "range"

-- The kinds understood on a type of field, in the order in which they are checked.
def ofFieldType (type : FieldType) : List RuleKind :=
  if type.isStringLike then [unique, size, prohibitRegexp]
  else if type.isNumeric then [range]
  else []

-- What a configuration should look like.
def hint : RuleKind → String
  | unique => "use `\"unique\": true`"
  | size | range => "expected an object with numeric `min` and/or `max`"
  | prohibitRegexp => "expected an object with a string `pattern` and optional `flags`"

end RuleKind

namespace PatternSource

def patternSlot : Slot String := ⟨"pattern", Json.asString, none⟩
def flagsSlot : Slot (Option String) := ⟨"flags", Json.asOptional Json.asString, some none⟩

def shape : RecordShape where
  name := "struct PatternConfig"
  checks := [patternSlot.check, flagsSlot.check]

def ofRecord (record : Record) : Shaped PatternSource := do
  return { pattern := ← record.get 0 patternSlot, flags := ← record.get 1 flagsSlot }

def ofJson (value : Json) : Shaped PatternSource := shape.read ofRecord value

end PatternSource

inductive Rule where
  -- Uniqueness among entries, which cannot be seen from one entry.
  | unique
  | size (bounds : Bounds)
  | prohibitRegexp (source : PatternSource)
  | range (bounds : Bounds)
  | required
deriving DecidableEq, Inhabited

namespace Rule

def name : Rule → String
  | unique => "unique"
  | size _ => "size"
  | prohibitRegexp _ => "prohibitRegexp"
  | range _ => "range"
  | required => "required"

def text : Rule → String
  | unique => "unique (not checked)"
  | size bounds => s!"size {bounds.text}"
  | prohibitRegexp source => s!"prohibitRegexp {source.text}"
  | range bounds => s!"range {bounds.text}"
  | required => "required"

-- The rule that a configuration declares. Any configuration declares uniqueness.
def ofConfig (kind : RuleKind) (config : Json) : Shaped Rule :=
  match kind with
  | .unique => .ok unique
  | .size => size <$> Bounds.ofJson config
  | .prohibitRegexp => prohibitRegexp <$> PatternSource.ofJson config
  | .range => range <$> Bounds.ofJson config

end Rule

end Vetting
