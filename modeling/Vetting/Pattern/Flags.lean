namespace Vetting.Pattern

-- Only `i`, `m` and `s` change what is found; `u`, `g` and `y` are accepted, since matching is by
-- code point and a single test keeps no place between calls.
structure Flags where
  ignoreCase : Bool := false
  multiLine : Bool := false
  dotAll : Bool := false
deriving DecidableEq, Repr, Inhabited

inductive FlagError where
  | repeated (flag : Char)
  | unsupported (flag : Char)
deriving DecidableEq, Repr, Inhabited

def FlagError.message : FlagError → String
  | repeated flag => s!"flag '{flag}' repeated"
  | unsupported flag => s!"unsupported flag '{flag}'"

namespace Flags

-- The flags with one more letter set.
def add? (flags : Flags) : Char → Option Flags
  | 'i' => some { flags with ignoreCase := true }
  | 'm' => some { flags with multiLine := true }
  | 's' => some { flags with dotAll := true }
  | 'u' | 'g' | 'y' => some flags
  | _ => none

-- Reads the remaining letters, after those already seen.
def readFrom (flags : Flags) (seen : List Char) : List Char → Except FlagError Flags
  | [] => .ok flags
  | c :: rest =>
    if seen.contains c then .error (.repeated c)
    else
      match flags.add? c with
      | some next => readFrom next (c :: seen) rest
      | none => .error (.unsupported c)

-- Every letter may occur once; a repetition is reported before an unsupported letter.
def parse (text : String) : Except FlagError Flags := readFrom {} [] text.toList

end Flags

end Vetting.Pattern
