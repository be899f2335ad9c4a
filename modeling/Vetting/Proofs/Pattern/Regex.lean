import Vetting.Proofs.Pattern.Spans

namespace Vetting.Pattern

-- The parts of an expression: a term, a sequence of terms, and alternatives of sequences.
inductive Level where
  | term
  | alternative
  | disjunction

-- How often a group is matched.
inductive Quantifier where
  | once
  | star
  | plus
  | optional

-- Expressions over atoms of any kind. Both dialects are written this way, and differ in their
-- atoms.
inductive Regex (α : Type) : Level → Type where
  | atom (a : α) : Regex α .term
  | group (body : Regex α .disjunction) (q : Quantifier) : Regex α .term
  | empty : Regex α .alternative
  | more (first : Regex α .term) (rest : Regex α .alternative) : Regex α .alternative
  | only (branch : Regex α .alternative) : Regex α .disjunction
  | either (branch : Regex α .alternative) (rest : Regex α .disjunction) : Regex α .disjunction

namespace Quantifier

def text : Quantifier → List Char
  | once => []
  | star => ['*']
  | plus => ['+']
  | optional => ['?']

-- Whether some number of rounds that the quantifier allows leads from one place to another.
def Spans (step : Nat → Nat → Prop) : Quantifier → Nat → Nat → Prop
  | once, start, stop => step start stop
  | star, start, stop => ∃ count, Rounds step count start stop
  | plus, start, stop => ∃ count, Rounds step (count + 1) start stop
  | optional, start, stop => start = stop ∨ step start stop

end Quantifier

namespace Regex

variable {α β : Type} {level : Level}

-- How an expression is written, if its atoms are written so.
def text (write : α → List Char) {level : Level} : Regex α level → List Char
  | atom a => write a
  | group body q => "(?:".toList ++ body.text write ++ ')' :: q.text
  | empty => []
  | more first rest => first.text write ++ rest.text write
  | only branch => branch.text write
  | either branch rest => branch.text write ++ '|' :: rest.text write

-- Whether an expression matches from one place to another, if its atoms match so.
def Spans (read : α → Nat → Nat → Prop) {level : Level} : Regex α level → Nat → Nat → Prop
  | atom a, start, stop => read a start stop
  | group body q, start, stop => q.Spans (body.Spans read) start stop
  | empty, start, stop => start = stop
  | more first rest, start, stop => ∃ next, first.Spans read start next ∧ rest.Spans read next stop
  | only branch, start, stop => branch.Spans read start stop
  | either branch rest, start, stop => branch.Spans read start stop ∨ rest.Spans read start stop

-- A sequence of atoms.
def sequence : List α → Regex α .alternative
  | [] => empty
  | a :: rest => more (atom a) (sequence rest)

-- The expression with a term in place of every atom.
def subst (f : α → Regex β .term) {level : Level} : Regex α level → Regex β level
  | atom a => f a
  | group body q => group (body.subst f) q
  | empty => empty
  | more first rest => more (first.subst f) (rest.subst f)
  | only branch => only (branch.subst f)
  | either branch rest => either (branch.subst f) (rest.subst f)

theorem spans_subst {f : α → Regex β .term} {read : α → Nat → Nat → Prop}
    {read' : β → Nat → Nat → Prop}
    (same : ∀ a start stop, (f a).Spans read' start stop ↔ read a start stop)
    (r : Regex α level) (start stop : Nat) :
    (r.subst f).Spans read' start stop ↔ r.Spans read start stop := by
  induction r generalizing start stop with
  | atom a => exact same a start stop
  | group body q ih =>
    have : (body.subst f).Spans read' = body.Spans read :=
      funext fun start => funext fun stop => propext (ih start stop)
    simp only [subst, Spans, this]
  | empty => rfl
  | more first rest ihf ihr => simp only [subst, Spans, ihf, ihr]
  | only branch ih => exact ih start stop
  | either branch rest ihb ihr => simp only [subst, Spans, ihb, ihr]

end Regex

end Vetting.Pattern
