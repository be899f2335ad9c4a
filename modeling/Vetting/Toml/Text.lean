import Vetting.Text.Basic

namespace Vetting.Toml

-- Control characters other than tabs are allowed nowhere.
def isContent (c : Char) : Bool := c == '\t' || (0x20 ≤ c.toNat && c.toNat != 0x7F)

def skipSpaces (cs : List Char) : List Char := cs.dropWhile fun c => c == ' ' || c == '\t'

-- The text behind the end of a line.
def newline? : List Char → Option (List Char)
  | '\n' :: rest => some rest
  | '\r' :: '\n' :: rest => some rest
  | _ => none

-- The text behind a comment, up to the end of its line.
def skipComment : List Char → List Char
  | '#' :: rest => rest.dropWhile isContent
  | rest => rest

-- The text behind a line on which nothing but a comment is left.
def lineEnd? (cs : List Char) : Option (List Char) :=
  match skipComment (skipSpaces cs) with
  | [] => some []
  | rest => newline? rest

-- The text behind blanks, comments and line ends, of at most `fuel` lines.
def skipFiller : Nat → List Char → List Char
  | 0, cs => cs
  | fuel + 1, cs =>
    match newline? (skipComment (skipSpaces cs)) with
    | some rest => skipFiller fuel rest
    | none => skipSpaces cs

section Strings

private def readCodePoint (digits : Nat) (cs : List Char) : Option (Char × List Char) := do
  if cs.length < digits then none
  let n ← Text.hexValues? (cs.take digits)
  if n.isValidChar then some (Char.ofNat n, cs.drop digits) else none

-- What follows the backslash of an escape.
def readEscape : List Char → Option (Char × List Char)
  | 'b' :: rest => some ('\x08', rest)
  | 't' :: rest => some ('\t', rest)
  | 'n' :: rest => some ('\n', rest)
  | 'f' :: rest => some ('\x0c', rest)
  | 'r' :: rest => some ('\r', rest)
  | '"' :: rest => some ('"', rest)
  | '\\' :: rest => some ('\\', rest)
  | 'u' :: rest => readCodePoint 4 rest
  | 'U' :: rest => readCodePoint 8 rest
  | _ => none

-- The rest of a basic string of at most `fuel` characters.
private def readBasic : Nat → List Char → List Char → Option (String × List Char)
  | 0, _, _ => none
  | _, _, [] => none
  | _, acc, '"' :: rest => some (String.ofList acc.reverse, rest)
  | fuel + 1, acc, '\\' :: cs => do
    let (c, rest) ← readEscape cs
    readBasic fuel (c :: acc) rest
  | fuel + 1, acc, c :: rest => if isContent c then readBasic fuel (c :: acc) rest else none

-- The rest of a literal string, in which nothing is escaped.
private def readLiteral (cs : List Char) : Option (String × List Char) :=
  let text := cs.takeWhile fun c => c != '\'' && isContent c
  match cs.drop text.length with
  | '\'' :: rest => some (String.ofList text, rest)
  | _ => none

-- The text behind a line end that is escaped, without the blanks and line ends after it.
private def continuation? (cs : List Char) : Option (List Char) :=
  (newline? (skipSpaces cs)).map (·.dropWhile fun c => [' ', '\t', '\n', '\r'].contains c)

-- The rest of a string of several lines between three delimiters, of at most `fuel` characters. Up
-- to two delimiters may stand inside it, or before the closing three.
private def readLong (delimiter : Char) : Nat → List Char → List Char → Option (String × List Char)
  | 0, _, _ => none
  | fuel + 1, acc, cs =>
    match newline? cs, cs with
    | some rest, _ => readLong delimiter fuel ('\n' :: acc) rest
    | none, [] => none
    | none, c :: rest =>
      if c == delimiter then
        let run := (cs.takeWhile (· == delimiter)).length
        let inside := List.replicate (if run < 3 then run else run - 3) delimiter
        if run < 3 then readLong delimiter fuel (inside ++ acc) (cs.drop run)
        else if run ≤ 5 then some (String.ofList (inside ++ acc).reverse, cs.drop run)
        else none
      else if c == '\\' && delimiter == '"' then
        match continuation? rest with
        | some rest => readLong delimiter fuel acc rest
        | none => do
          let (escaped, rest) ← readEscape rest
          readLong delimiter fuel (escaped :: acc) rest
      else if isContent c then readLong delimiter fuel (c :: acc) rest
      else none

-- A string of one line.
def readShortString : List Char → Option (String × List Char)
  | '"' :: rest => readBasic (rest.length + 1) [] rest
  | '\'' :: rest => readLiteral rest
  | _ => none

-- A string of any form. A line end right after three delimiters does not count.
def readString : List Char → Option (String × List Char)
  | '"' :: '"' :: '"' :: rest =>
    readLong '"' (rest.length + 1) [] ((newline? rest).getD rest)
  | '\'' :: '\'' :: '\'' :: rest =>
    readLong '\'' (rest.length + 1) [] ((newline? rest).getD rest)
  | cs => readShortString cs

end Strings

section Keys

def isBareKey (c : Char) : Bool := c.isAlphanum || c == '-' || c == '_'

private def readSimpleKey (cs : List Char) : Option (String × List Char) :=
  match cs with
  | '"' :: _ => readShortString cs
  | '\'' :: _ => readShortString cs
  | _ =>
    let key := cs.takeWhile isBareKey
    if key.isEmpty then none else some (String.ofList key, cs.drop key.length)

-- How deeply values may be nested, and how many parts a key may have.
def maxDepth : Nat := 79

-- The parts of a dotted key, `limit` at most, with blanks around each of them.
def readKeyParts : Nat → List Char → Option (List String × List Char)
  | 0, _ => none
  | limit + 1, cs => do
    let (key, rest) ← readSimpleKey (skipSpaces cs)
    match skipSpaces rest with
    | '.' :: rest => do
      let (keys, rest) ← readKeyParts limit rest
      return (key :: keys, rest)
    | rest => return ([key], rest)

-- A dotted key: its parts before the last one, and the last one.
def readKey (cs : List Char) : Option ((List String × String) × List Char) := do
  let (keys, rest) ← readKeyParts maxDepth cs
  return ((keys.dropLast, ← keys.getLast?), rest)

end Keys

end Vetting.Toml
