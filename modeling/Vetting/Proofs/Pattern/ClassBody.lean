import Vetting.Proofs.Pattern.EcmaScript

namespace Vetting.Pattern.EcmaScript

inductive ClassAtom where
  | literal (c : Char) (plain : c ∉ ['\\', ']', '-'])
  | dash
  | shorthand (s : Shorthand) (negated : Bool)
  | backspace
  | capitalB
  | control (letter : Char) (named : letter.isAlpha = true)
  | null
  | escaped (c : Char) (plain : c.isAlphanum = false)
deriving DecidableEq

namespace ClassAtom

def text : ClassAtom → List Char
  | literal c _ => [c]
  | dash => ['-']
  | shorthand s negated => ['\\', s.letter negated]
  | backspace => ['\\', 'b']
  | capitalB => ['\\', 'B']
  | control letter _ => ['\\', 'c', letter]
  | null => ['\\', '0']
  | escaped c _ => ['\\', c]

-- The character that an atom stands for, unless it stands for several.
def char? : ClassAtom → Option Char
  | literal c _ => some c
  | dash => some '-'
  | shorthand _ _ => none
  | backspace => some '\x08'
  | capitalB => some 'B'
  | control letter _ => some (Char.ofNat (letter.toNat % 32))
  | null => some '\x00'
  | escaped c _ => some c

def mem (a : ClassAtom) (c : Char) : Bool :=
  match a with
  | shorthand s negated => s.mem c != negated
  | a => a.char? == some c

end ClassAtom

-- What a dash makes of its two sides.
def spanMem (a b : ClassAtom) (c : Char) : Bool :=
  match a.char?, b.char? with
  | some first, some last => first ≤ c && c ≤ last
  | _, _ => a.mem c || c == '-' || b.mem c

def bodyMem : List ClassAtom → Char → Bool
  | a :: .dash :: b :: rest, c => spanMem a b c || bodyMem rest c
  | a :: rest, c => a.mem c || bodyMem rest c
  | [], _ => false

-- Whether a class has a character.
def classMem (negated : Bool) (body : List ClassAtom) (c : Char) : Bool := bodyMem body c != negated

-- The source text of a class.
def classSource (negated : Bool) (body : List ClassAtom) : String :=
  String.ofList ('[' :: (if negated then ['^'] else []) ++ body.flatMap ClassAtom.text ++ [']'])

-- Whether all ranges are in order.
def inOrder : List ClassAtom → Bool
  | a :: .dash :: b :: rest =>
    (match a.char?, b.char? with
      | some first, some last => first ≤ last
      | _, _ => true) && inOrder rest
  | _ :: rest => inOrder rest
  | [] => true

section Free

-- An atom that no dash joins to another.
variable {a : ClassAtom} {rest : List ClassAtom} (free : ∀ b others, rest ≠ .dash :: b :: others)
include free

theorem bodyMem_cons (c : Char) : bodyMem (a :: rest) c = (a.mem c || bodyMem rest c) := by
  rw [bodyMem]
  exact free

theorem inOrder_cons : inOrder (a :: rest) = inOrder rest := by
  rw [inOrder]
  exact free

end Free

-- Whether no null is written right before a digit, which would make it another escape.
def nullsApart : List ClassAtom → Bool
  | .null :: .literal c plain :: rest => !c.isDigit && nullsApart (.literal c plain :: rest)
  | _ :: rest => nullsApart rest
  | [] => true

-- Whether a body begins with a caret, which would negate the class.
def opensWithCaret : List ClassAtom → Bool
  | .literal '^' _ :: _ => true
  | _ => false

-- A body that a class can have.
structure IsClass (negated : Bool) (body : List ClassAtom) : Prop where
  caret : negated = false → opensWithCaret body = false
  apart : nullsApart body = true
  ordered : inOrder body = true

instance (negated : Bool) (body : List ClassAtom) : Decidable (IsClass negated body) :=
  decidable_of_iff ((negated = false → opensWithCaret body = false) ∧ nullsApart body = true ∧
      inOrder body = true)
    ⟨fun ⟨caret, apart, ordered⟩ => ⟨caret, apart, ordered⟩,
      fun ⟨caret, apart, ordered⟩ => ⟨caret, apart, ordered⟩⟩

end Vetting.Pattern.EcmaScript
