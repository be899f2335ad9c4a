import Vetting.Pattern.CharSet

namespace Vetting.Pattern

-- Why a pattern is refused.
inductive SyntaxFault where
  | unclosedClass
  | unclosedGroup
  | unopenedGroup
  | unclosedComment
  | tooDeep
  | badRange
  | badRangeEnd
  | badClassMember
  | strayTextAfterClass
  | nothingToRepeat
  | badCount
  | badGroupName
  | unknownGroup
  | unknownFlag
  | mixedReferences
  | badReference
  | unknownEscape
  | trailingBackslash
  | badHexEscape
  | notACharacter
  | unknownProperty
  | lookbehindLength
deriving DecidableEq, Repr, Inhabited

def SyntaxFault.message : SyntaxFault → String
  | unclosedClass => "a class is not closed"
  | unclosedGroup => "a group is not closed"
  | unopenedGroup => "a parenthesis closes no group"
  | unclosedComment => "a comment is not closed"
  | tooDeep => "groups are nested too deeply"
  | badRange => "a range of characters is reversed"
  | badRangeEnd => "a range of characters has no end"
  | badClassMember => "a class has a member that is no character"
  | strayTextAfterClass => "a class is followed by stray text"
  | nothingToRepeat => "there is nothing to repeat"
  | badCount => "a repetition count is out of order or too large"
  | badGroupName => "a group has no proper name"
  | unknownGroup => "a kind of group is unknown"
  | unknownFlag => "a flag is unknown"
  | mixedReferences => "numbered references cannot stand beside named groups"
  | badReference => "a reference leads to no group"
  | unknownEscape => "an escape is unknown"
  | trailingBackslash => "a backslash stands at the end"
  | badHexEscape => "a hexadecimal escape is incomplete"
  | notACharacter => "an escape names no character"
  | unknownProperty => "a property of characters is unknown"
  | lookbehindLength => "a lookbehind has no constant length"

namespace Class

-- What a class is read from: characters that may have a meaning in it, characters that stand for
-- themselves, and whole sets.
inductive Token where
  | raw (c : Char)
  | literal (c : Char)
  | set (s : CharSet)
deriving DecidableEq, Repr

-- The operators `&&`, `--` and `~~`, which bind equally and from the left.
inductive Operator where
  | intersection
  | difference
  | symmetricDifference
deriving DecidableEq, Repr

def Operator.apply : Operator → CharSet → CharSet → CharSet
  | intersection => .intersection
  | difference => .difference
  | symmetricDifference => .symmetricDifference

-- A class that is still open: what stands left of the last operator, and the members since then.
structure Level where
  negated : Bool
  left : Option (Operator × CharSet)
  members : CharSet

namespace Level

def add (level : Level) (s : CharSet) : Level := { level with members := .union level.members s }

-- Case is closed up on both sides of an operator before it is applied.
def operand (ignoreCase : Bool) (level : Level) : CharSet :=
  match level.left with
  | none => level.members
  | some (op, left) =>
    op.apply (left.withCase ignoreCase) (level.members.withCase ignoreCase)

def split (ignoreCase : Bool) (level : Level) (op : Operator) : Level :=
  { level with left := some (op, level.operand ignoreCase), members := .empty }

-- The set of a class at its closing bracket: closed under case, and only then negated.
def close (ignoreCase : Bool) (level : Level) : CharSet :=
  ((level.operand ignoreCase).withCase ignoreCase).negatedIf level.negated

end Level

-- The character of a token that may end a range.
def Token.char? : Token → Option Char
  | raw c | literal c => some c
  | set _ => none

def Token.toSet : Token → CharSet
  | raw c | literal c => .single c
  | set s => s

-- Dashes right after the opening are members.
def leadingDashes (level : Level) : List Token → Bool × Level × List Token
  | .raw '-' :: rest =>
    let (_, level, rest) := leadingDashes (level.add (.single '-')) rest
    (true, level, rest)
  | rest => (false, level, rest)

-- A new level, after an opening bracket. A closing bracket right behind it is a member.
def openLevel (tokens : List Token) : Level × List Token :=
  let (negated, rest) :=
    match tokens with
    | .raw '^' :: rest => (true, rest)
    | rest => (false, rest)
  let (dashed, level, rest) := leadingDashes ⟨negated, none, .empty⟩ rest
  match dashed, rest with
  | false, .raw ']' :: rest => (level.add (.single ']'), rest)
  | _, rest => (level, rest)

-- One member: a range if a dash follows that is not the last character of the class and not the
-- first of an operator, and otherwise the token alone.
def readMember (token : Token) (rest : List Token) : Except SyntaxFault (CharSet × List Token) :=
  match rest with
  | [] => .error .unclosedClass
  | .raw '-' :: .raw ']' :: _ | .raw '-' :: .raw '-' :: _ => .ok (token.toSet, rest)
  | .raw '-' :: [] => .error .unclosedClass
  | .raw '-' :: last :: rest =>
    match token.char?, last.char? with
    | some first, some last =>
      if first ≤ last then .ok (.range first last, rest) else .error .badRange
    | _, _ => .error .badRangeEnd
  | rest => .ok (token.toSet, rest)

-- Reads members into the innermost open level; `outer` are the levels around it. Gives the set of
-- the outermost class and what follows its closing bracket.
def readLevels (ignoreCase : Bool) :
    Nat → Level → List Level → List Token → Except SyntaxFault (CharSet × List Token)
  | 0, _, _, _ => .error .unclosedClass
  | _ + 1, _, _, [] => .error .unclosedClass
  | fuel + 1, level, outer, .raw '[' :: rest =>
    let (inner, rest) := openLevel rest
    readLevels ignoreCase fuel inner (level :: outer) rest
  | fuel + 1, level, outer, .raw ']' :: rest =>
    match outer with
    | [] => .ok (level.close ignoreCase, rest)
    | next :: outer => readLevels ignoreCase fuel (next.add (level.close ignoreCase)) outer rest
  | fuel + 1, level, outer, .raw '&' :: .raw '&' :: rest =>
    readLevels ignoreCase fuel (level.split ignoreCase .intersection) outer rest
  | fuel + 1, level, outer, .raw '-' :: .raw '-' :: rest =>
    readLevels ignoreCase fuel (level.split ignoreCase .difference) outer rest
  | fuel + 1, level, outer, .raw '~' :: .raw '~' :: rest =>
    readLevels ignoreCase fuel (level.split ignoreCase .symmetricDifference) outer rest
  | fuel + 1, level, outer, token :: rest => do
    let (s, rest) ← readMember token rest
    readLevels ignoreCase fuel (level.add s) outer rest

-- The set of a class, from the tokens after its opening bracket.
def read (ignoreCase : Bool) (tokens : List Token) : Except SyntaxFault (CharSet × List Token) :=
  let (level, rest) := openLevel tokens
  readLevels ignoreCase (rest.length + 1) level [] rest

end Class

end Vetting.Pattern
