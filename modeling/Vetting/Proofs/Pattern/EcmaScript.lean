import Vetting.Proofs.Pattern.Regex

namespace Vetting.Pattern.EcmaScript

-- Characters that stand for themselves nowhere or only after a backslash.
def syntaxCharacters : List Char := "^$\\.*+?()[]\x7b\x7d|".toList

-- The sets of the shorthand classes.
inductive Shorthand where
  | digit
  | word
  | space
deriving DecidableEq, Repr

inductive Atom where
  | literal (c : Char) (plain : c ∉ syntaxCharacters)
  | dot
  | class (shorthand : Shorthand) (negated : Bool)
  | caret
  | dollar
  | boundary (negated : Bool)

abbrev Tree := Regex Atom .disjunction

namespace Shorthand

def letter : Shorthand → Bool → Char
  | digit, false => 'd'
  | digit, true => 'D'
  | word, false => 'w'
  | word, true => 'W'
  | space, false => 's'
  | space, true => 'S'

end Shorthand

def Atom.text : Atom → List Char
  | literal c _ => [c]
  | dot => ['.']
  | .class shorthand negated => ['\\', shorthand.letter negated]
  | caret => ['^']
  | dollar => ['$']
  | boundary negated => ['\\', if negated then 'B' else 'b']

-- The source text of a pattern.
def source (r : Tree) : String := String.ofList (r.text Atom.text)

def isDigit (c : Char) : Bool := '0' ≤ c && c ≤ '9'

def isWord (c : Char) : Bool :=
  ('a' ≤ c && c ≤ 'z') || ('A' ≤ c && c ≤ 'Z') || isDigit c || c == '_'

def isLineTerminator (c : Char) : Bool :=
  c == '\n' || c == '\r' || c == '\u2028' || c == '\u2029'

-- White space and line terminators. Besides those of ASCII, the byte order mark and the no-break
-- space these are the space separators of Unicode.
def isSpace (c : Char) : Bool :=
  c == '\t' || c == '\x0b' || c == '\x0c' || c == ' ' || c == '\u00a0' || c == '\ufeff' ||
    isLineTerminator c || c == '\u1680' || ('\u2000' ≤ c && c ≤ '\u200a') || c == '\u202f' ||
    c == '\u205f' || c == '\u3000'

def Shorthand.mem : Shorthand → Char → Bool
  | digit => isDigit
  | word => isWord
  | space => isSpace

-- The flags that change what an atom matches.
structure Mode where
  multiLine : Bool
  dotAll : Bool

-- The mode of a string of flags. The others change nothing, but for `i`.
def Mode.ofFlags (flags : String) : Mode where
  multiLine := 'm' ∈ flags.toList
  dotAll := 's' ∈ flags.toList

-- Whether there is a word character on exactly one side of a place.
def AtBoundary (text : List Char) (place : Nat) : Prop :=
  ((before? text place).any isWord != text[place]?.any isWord) = true

def Atom.Spans (mode : Mode) (text : List Char) : Atom → Nat → Nat → Prop
  | literal c _, start, stop => text[start]? = some c ∧ stop = start + 1
  | dot, start, stop =>
    (∃ c, text[start]? = some c ∧ (mode.dotAll = true ∨ isLineTerminator c = false)) ∧
      stop = start + 1
  | .class shorthand negated, start, stop =>
    (∃ c, text[start]? = some c ∧ shorthand.mem c = !negated) ∧ stop = start + 1
  | caret, start, stop =>
    (start = 0 ∨ mode.multiLine = true ∧ (before? text start).any isLineTerminator = true) ∧
      start = stop
  | dollar, start, stop =>
    (start = text.length ∨ mode.multiLine = true ∧ text[start]?.any isLineTerminator = true) ∧
      start = stop
  | boundary negated, start, stop => (AtBoundary text start ↔ negated = false) ∧ start = stop

-- Whether a pattern matches some span of a text.
def Matches (mode : Mode) (r : Tree) (text : List Char) : Prop :=
  ∃ start stop, start ≤ stop ∧ stop ≤ text.length ∧ r.Spans (Atom.Spans mode text) start stop

end Vetting.Pattern.EcmaScript
