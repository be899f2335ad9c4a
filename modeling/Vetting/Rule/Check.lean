import Vetting.Rule.Basic
import Vetting.Text.Basic

namespace Vetting

structure Options where
  -- Whether a bound of zero counts as none.
  zeroBoundIsAbsent : Bool := true
  -- Whether an absent value is compared as zero under `range`.
  nullRangeIsZero : Bool := true
deriving DecidableEq, Repr, Inhabited

inductive Check where
  | unique
  -- The length of a text in UTF-16 code units, or of an array.
  | size (bounds : Bounds)
  -- The pattern matches nowhere in a text.
  | prohibited (pattern : Pattern)
  | range (bounds : Bounds) (nullIsZero : Bool)
  -- The value is not null.
  | required
deriving Inhabited

inductive CheckError where
  | wrongKind (rule expected found : String)
  | unfinished (rule : String) (error : Pattern.MatchError)
deriving DecidableEq, Repr, Inhabited

def CheckError.message : CheckError → String
  | wrongKind rule expected found => s!"{rule} expects a {expected} value, found {found}"
  | unfinished rule error => s!"{rule} could not finish matching: {error.message}"

-- The bounds that count.
def Options.bounds (options : Options) (declared : Bounds) : Bounds :=
  if options.zeroBoundIsAbsent then declared.withoutZero else declared

-- The check of a rule; only a pattern may be refused.
def Rule.compile (options : Options) : Rule → Except Pattern.CompileError Check
  | unique => .ok .unique
  | size declared => .ok (.size (options.bounds declared))
  | prohibitRegexp source => .prohibited <$> Pattern.compile source
  | range declared => .ok (.range (options.bounds declared) options.nullRangeIsZero)
  | required => .ok .required

namespace Check

def name : Check → String
  | unique => "unique"
  | size _ => "size"
  | prohibited _ => "prohibitRegexp"
  | range .. => "range"
  | required => "required"

def text : Check → String
  | unique => "unique (always passes)"
  | size bounds => s!"length {bounds.text}"
  | prohibited pattern => s!"must not match {pattern.source.text}"
  | range bounds _ => s!"value {bounds.text}"
  | required => "not null"

def wrongKind (check : Check) (expected : String) (value : Json) : CheckError :=
  .wrongKind check.name expected value.kind

-- Whether a value passes. Null passes checks on texts, and under `range` it counts as zero or
-- passes.
def test (check : Check) (value : Json) : Except CheckError Bool :=
  match check with
  | unique => .ok true
  | required =>
    match value with
    | .null => .ok false
    | _ => .ok true
  | size bounds =>
    match value with
    | .null => .ok true
    | .string text => .ok (bounds.contains (.ofInt (Text.utf16Length text)))
    | .array items => .ok (bounds.contains (.ofInt items.length))
    | other => .error (check.wrongKind "string" other)
  | prohibited pattern =>
    match value with
    | .null => .ok true
    | .string text =>
      match pattern.isMatch text with
      | .ok found => .ok !found
      | .error error => .error (.unfinished check.name error)
    | other => .error (check.wrongKind "string" other)
  | range bounds nullIsZero =>
    match value with
    | .null => .ok (!nullIsZero || bounds.contains (.zero false))
    | .number number => .ok (bounds.contains number.toDouble)
    | other => .error (check.wrongKind "number" other)

end Check

end Vetting
