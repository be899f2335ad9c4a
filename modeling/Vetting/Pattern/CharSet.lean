import Vetting.Text.Basic
import Vetting.Text.Folding
import Vetting.Text.Letters

namespace Vetting.Pattern

-- Sets of Unicode.
inductive Property where
  | blank
  | digit
  | word
  | listed (rows : Text.Table)
deriving DecidableEq, Repr

def Property.holds : Property → Char → Bool
  | blank, c => Text.isBlank c
  | digit, c => Text.isDecimalDigit c
  | word, c => Text.isWord c
  | listed rows, c => rows.has c

inductive CharSet where
  | empty
  | single (c : Char)
  | range (first last : Char)
  | property (p : Property)
  | union (a b : CharSet)
  | intersection (a b : CharSet)
  | difference (a b : CharSet)
  | symmetricDifference (a b : CharSet)
  | complement (a : CharSet)
  -- Every character that differs only in case from one of the set.
  | caseless (a : CharSet)
deriving DecidableEq, Repr, Inhabited

namespace CharSet

def mem : CharSet → Char → Bool
  | empty, _ => false
  | single d, c => c == d
  | range first last, c => first ≤ c && c ≤ last
  | property p, c => p.holds c
  | union a b, c => a.mem c || b.mem c
  | intersection a b, c => a.mem c && b.mem c
  | difference a b, c => a.mem c && !b.mem c
  | symmetricDifference a b, c => a.mem c != b.mem c
  | complement a, c => !a.mem c
  | caseless a, c => (Text.caseVariants c).any a.mem

def newline : CharSet := single '\n'

-- The set itself, or closed under case.
def withCase (ignoreCase : Bool) (a : CharSet) : CharSet := if ignoreCase then caseless a else a

-- The set itself, or its complement.
def negatedIf (negated : Bool) (a : CharSet) : CharSet := if negated then complement a else a

end CharSet

end Vetting.Pattern
