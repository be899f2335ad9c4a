import Vetting.Pattern.CharSet

namespace Vetting.Pattern

-- Conditions on a place in the text.
inductive Assertion where
  | textStart
  | textEnd
  | lineStart
  | lineEnd
  | wordStart
  | wordEnd
deriving DecidableEq, Repr

inductive Syntax where
  | empty
  -- One character of a set.
  | char (set : CharSet)
  | assertion (a : Assertion)
  -- Sequences and alternatives lean to the right; a group without a number is kept as a scope.
  | seq (a b : Syntax)
  | alt (a b : Syntax)
  | scope (a : Syntax)
  | capture (index : Nat) (a : Syntax)
  -- At least `min` times and at most `max` times.
  | repetition (a : Syntax) (min : Nat) (max : Option Nat) (greedy : Bool)
  | look (behind negative : Bool) (a : Syntax)
  | atomic (a : Syntax)
  | backreference (index : Nat)
deriving DecidableEq, Repr, Inhabited

namespace Syntax

-- The tree inside groups without a number.
def unscoped : Syntax → Syntax
  | scope a => a.unscoped
  | a => a

def isEmpty (a : Syntax) : Bool := a.unscoped == empty

def isAlt : Syntax → Bool
  | alt _ _ => true
  | _ => false

-- A quantifier needs something to repeat: no lookaround, no assertion and not nothing.
def isRepeatable (a : Syntax) : Bool :=
  match a.unscoped with
  | empty | assertion _ | look _ _ _ => false
  | _ => true

-- The items of a sequence, put together.
def ofItems : List Syntax → Syntax
  | [] => empty
  | [a] => a
  | a :: rest => seq a (ofItems rest)

-- The branches of an alternation, put together.
def ofBranches : List Syntax → Syntax
  | [] => empty
  | [a] => a
  | a :: rest => alt a (ofBranches rest)

-- The groups that some backreference names.
def references : Syntax → List Nat
  | empty | char _ | assertion _ => []
  | seq a b | alt a b => a.references ++ b.references
  | scope a | capture _ a | repetition a _ _ _ | look _ _ a | atomic a => a.references
  | backreference index => [index]

-- Whether the tree can only be run with backtracking. Besides the constructs that look around or
-- back, that is a group to which a backreference may return.
def needsBacktracking (referenced : List Nat) : Syntax → Bool
  | empty | char _ => false
  | assertion a => a == .wordStart || a == .wordEnd
  | seq a b | alt a b => a.needsBacktracking referenced || b.needsBacktracking referenced
  | scope a | repetition a _ _ _ => a.needsBacktracking referenced
  | capture index a => a.needsBacktracking referenced || referenced.contains index
  | look _ _ _ | atomic _ | backreference _ => true

-- The fewest characters that a match can take.
def minLength : Syntax → Nat
  | empty | assertion _ | look _ _ _ | backreference _ => 0
  | char _ => 1
  | seq a b => a.minLength + b.minLength
  | alt a b => min a.minLength b.minLength
  | scope a | capture _ a | atomic a => a.minLength
  | repetition a min _ _ => a.minLength * min

-- Whether all matches take the same number of characters.
def isFixedLength : Syntax → Bool
  | empty | char _ | assertion _ | look _ _ _ => true
  | seq a b => a.isFixedLength && b.isFixedLength
  | alt a b => a.isFixedLength && b.isFixedLength && a.minLength == b.minLength
  | scope a | capture _ a | atomic a => a.isFixedLength
  | repetition a min max _ => a.isFixedLength && max == some min
  | backreference _ => false

-- The largest count of a repetition that is run without backtracking.
def maxCount : Nat := (1 <<< 32) - 1

-- Whether every repetition has counts in order that are not too large.
def hasSoundCounts : Syntax → Bool
  | empty | char _ | assertion _ | backreference _ => true
  | seq a b | alt a b => a.hasSoundCounts && b.hasSoundCounts
  | scope a | capture _ a | look _ _ a | atomic a => a.hasSoundCounts
  | repetition a min max _ =>
    a.hasSoundCounts && min ≤ maxCount && max.all fun max => min ≤ max && max ≤ maxCount

end Syntax

end Vetting.Pattern
