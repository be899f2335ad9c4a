import Vetting.Json.Reader

namespace Vetting.Json

private def skipDigits (cs : List Char) : List Char := cs.dropWhile Char.isDigit

-- What follows the letter of an exponent.
private def skipExponent (cs : List Char) : Reading (List Char) :=
  let digits :=
    match cs with
    | '+' :: rest => rest
    | '-' :: rest => rest
    | rest => rest
  match digits with
  | [] => failBefore .invalidNumber []
  | c :: rest => if c.isDigit then .ok (skipDigits rest) else failInto .invalidNumber (c :: rest)

private def skipScale : List Char → Reading (List Char)
  | 'e' :: rest => skipExponent rest
  | 'E' :: rest => skipExponent rest
  | rest => .ok rest

-- What follows the integer digits of a number.
private def skipFraction : List Char → Reading (List Char)
  | '.' :: [] => failInto .invalidNumber []
  | '.' :: c :: rest =>
    if c.isDigit then skipScale (skipDigits rest) else failInto .invalidNumber (c :: rest)
  | rest => skipScale rest

-- A number after its sign.
def skipNumber : List Char → Reading (List Char)
  | [] => failBefore .invalidNumber []
  | '0' :: rest =>
    match rest with
    | c :: _ => if c.isDigit then failInto .invalidNumber rest else skipFraction rest
    | [] => .ok []
  | c :: rest =>
    if c.isDigit then skipFraction (skipDigits rest) else failInto .invalidNumber (c :: rest)

private def skipEscape : List Char → Reading (List Char)
  | [] => failBefore .endOfString []
  | 'u' :: cs => do
    let (_, rest) ← readHex4 cs
    return rest
  | c :: rest =>
    if ['"', '\\', '/', 'b', 'f', 'n', 'r', 't'].contains c then .ok rest
    else failInto .invalidEscape (c :: rest)

-- A string after its opening quote, of at most `fuel` characters.
private def skipChars : Nat → List Char → Reading (List Char)
  | _, [] => failBefore .endOfString []
  | 0, rest => failBefore .endOfString rest
  | _, '"' :: rest => .ok rest
  | fuel + 1, '\\' :: cs => do
    let rest ← skipEscape cs
    skipChars fuel rest
  | fuel + 1, c :: rest =>
    if c.toNat < 0x20 then failBefore .controlCharacter (c :: rest) else skipChars fuel rest

def skipString (cs : List Char) : Reading (List Char) := skipChars cs.length cs

-- The name of a member and the colon after it.
private def skipKey (cs : List Char) : Reading (List Char) :=
  match skipBlanks cs with
  | '"' :: rest => do
    let rest ← skipString rest
    readColon rest
  | [] => failInto .endOfObject []
  | rest => failInto .keyNotString rest

-- What encloses a value.
inductive Enclosure where
  | list
  | object
deriving DecidableEq, Repr

mutual

-- A value and all that follows it inside the open enclosures, the innermost first; `fuel` bounds
-- the steps.
def skipWithin (fuel : Nat) (enclosures : List Enclosure) (cs : List Char) : Reading (List Char) :=
  match fuel with
  | 0 => failBefore .tooDeep cs
  | fuel + 1 =>
    match skipBlanks cs with
    | [] => failInto .endOfValue []
    | 'n' :: rest => do skipBehind fuel enclosures (← readWord ['u', 'l', 'l'] rest)
    | 't' :: rest => do skipBehind fuel enclosures (← readWord ['r', 'u', 'e'] rest)
    | 'f' :: rest => do skipBehind fuel enclosures (← readWord ['a', 'l', 's', 'e'] rest)
    | '"' :: rest => do skipBehind fuel enclosures (← skipString rest)
    | '-' :: rest => do skipBehind fuel enclosures (← skipNumber rest)
    | '[' :: rest =>
      match skipBlanks rest with
      | [] => failInto .endOfList []
      | ']' :: rest => skipBehind fuel enclosures rest
      | rest => skipWithin fuel (.list :: enclosures) rest
    | '\x7b' :: rest =>
      match skipBlanks rest with
      | [] => failInto .endOfObject []
      | '\x7d' :: rest => skipBehind fuel enclosures rest
      | rest => do skipWithin fuel (.object :: enclosures) (← skipKey rest)
    | c :: rest =>
      if c.isDigit then do skipBehind fuel enclosures (← skipNumber (c :: rest))
      else failInto .expectedValue (c :: rest)

-- What follows a value inside the open enclosures.
def skipBehind (fuel : Nat) (enclosures : List Enclosure) (cs : List Char) : Reading (List Char) :=
  match fuel, enclosures with
  | _, [] => .ok cs
  | 0, _ => failBefore .tooDeep cs
  | fuel + 1, .list :: outer =>
    match skipBlanks cs with
    | [] => failInto .endOfList []
    | ',' :: rest => skipWithin fuel (.list :: outer) rest
    | ']' :: rest => skipBehind fuel outer rest
    | rest => failInto .expectedCommaOrBracket rest
  | fuel + 1, .object :: outer =>
    match skipBlanks cs with
    | [] => failInto .endOfObject []
    | ',' :: rest => do skipWithin fuel (.object :: outer) (← skipKey rest)
    | '\x7d' :: rest => skipBehind fuel outer rest
    | rest => failInto .expectedCommaOrBrace rest

end

-- Passes over one value that nobody wants. Only its structure is checked: numbers may have any
-- size, escapes may name any unit, and values may be nested to any depth.
def skipValue (cs : List Char) : Reading (List Char) := skipWithin (fuelFor cs) [] cs

end Vetting.Json
