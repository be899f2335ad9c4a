import Vetting.Verdict.Basic

namespace Vetting

inductive Status where
  | valid
  | invalid
deriving DecidableEq, Repr

namespace Status

-- Nothing is known against an entry that was not checked.
instance : Inhabited Status := ⟨valid⟩

def ofValid (isValid : Bool) : Status := if isValid then valid else invalid

def ofVerdict (verdict : Verdict) : Status := ofValid verdict.valid

def isValid : Status → Bool
  | valid => true
  | invalid => false

def name : Status → String
  | valid => "valid"
  | invalid => "invalid"

-- The style of the note that shows the status.
def note : Status → String
  | valid => "positive"
  | invalid => "negative"

def message : Status → String
  | valid => "All is good! You can publish."
  | invalid => "There are some errors in your fields."

end Status

end Vetting
