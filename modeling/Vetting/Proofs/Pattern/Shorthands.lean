import Vetting.Pattern.Dialect
import Vetting.Proofs.Pattern.Parsing

namespace Vetting.Pattern

-- The members of a class, put together from the left.
def CharSet.unionAll (sets : List CharSet) : CharSet := sets.foldl .union .empty

theorem CharSet.mem_foldl_union (sets : List CharSet) (a : CharSet) (c : Char) :
    (sets.foldl .union a).mem c = (a.mem c || sets.any (·.mem c)) := by
  induction sets generalizing a with
  | nil => simp
  | cons set sets ih => rw [List.foldl_cons, ih, List.any_cons, mem, Bool.or_assoc]

theorem CharSet.mem_unionAll (sets : List CharSet) (c : Char) :
    (unionAll sets).mem c = sets.any (·.mem c) := by
  rw [unionAll, mem_foldl_union, mem, Bool.false_or]

theorem CharSet.mem_negatedIf (negated : Bool) (a : CharSet) (c : Char) :
    (a.negatedIf negated).mem c = (a.mem c != negated) := by
  cases negated <;> simp [negatedIf, mem]

-- The sets that the body of a shorthand is read as.
def EcmaScript.Shorthand.sets : EcmaScript.Shorthand → List CharSet
  | .digit => [.range '0' '9']
  | .word => [.range 'A' 'Z', .range 'a' 'z', .range '0' '9', .single '_']
  | .space =>
    [.single '\t', .single '\n', .single '\x0b', .single '\x0c', .single '\r', .single ' ',
      .single '\u00a0', .single '\u1680', .range '\u2000' '\u200a', .single '\u2028',
      .single '\u2029', .single '\u202f', .single '\u205f', .single '\u3000', .single '\ufeff']

theorem EcmaScript.Shorthand.mem_sets (s : Shorthand) (c : Char) :
    s.sets.any (·.mem c) = s.mem c := by
  cases s with
  | digit => simp [sets, CharSet.mem, mem, isDigit]
  | word =>
    simp only [sets, CharSet.mem, mem, isWord, isDigit, List.any_cons, List.any_nil, Bool.or_false]
    ac_rfl
  | space =>
    simp only [sets, CharSet.mem, mem, isSpace, isLineTerminator, List.any_cons, List.any_nil,
      Bool.or_false]
    ac_rfl

namespace Dialect

-- The body that a shorthand is spelled with.
def shorthandBody : EcmaScript.Shorthand → List Char
  | .digit => digits
  | .word => wordCharacters
  | .space => spaces

end Dialect

namespace Parser.ClassText

open Dialect

def opening (negated : Bool) : List Char := if negated then ['^'] else []

-- The class of a shorthand.
def shorthand (s : EcmaScript.Shorthand) (negated : Bool) : ClassText where
  body := opening negated ++ shorthandBody s
  set := (CharSet.unionAll s.sets).negatedIf negated
  reads _ := by cases s <;> cases negated <;> rfl

def lineTerminatorSets : List CharSet :=
  [.single '\n', .single '\r', .single '\u2028', .single '\u2029']

def lineTerminator (negated : Bool) : ClassText where
  body := opening negated ++ lineTerminators
  set := (CharSet.unionAll lineTerminatorSets).negatedIf negated
  reads _ := by cases negated <;> rfl

def anything : ClassText :=
  ⟨"\\s\\S".toList, .unionAll [.property .blank, .complement (.property .blank)], fun _ => rfl⟩

theorem mem_shorthand (s : EcmaScript.Shorthand) (negated : Bool) (c : Char) :
    (shorthand s negated).set.mem c = (s.mem c != negated) := by
  rw [shorthand, CharSet.mem_negatedIf, CharSet.mem_unionAll, s.mem_sets]

theorem mem_lineTerminator (negated : Bool) (c : Char) :
    (lineTerminator negated).set.mem c = (EcmaScript.isLineTerminator c != negated) := by
  rw [lineTerminator, CharSet.mem_negatedIf, CharSet.mem_unionAll]
  simp only [lineTerminatorSets, CharSet.mem, EcmaScript.isLineTerminator, List.any_cons,
    List.any_nil, Bool.or_false, Bool.or_assoc]

theorem mem_anything (c : Char) : anything.set.mem c = true := by
  simp [anything, CharSet.mem_unionAll, CharSet.mem]

end Parser.ClassText

end Vetting.Pattern
