import Vetting.Json.Shape
import Vetting.Number.Decimal
import Vetting.Text.Basic

namespace Vetting.Json

inductive ReadFault where
  | endOfValue
  | endOfString
  | endOfObject
  | endOfList
  | expectedColon
  | expectedCommaOrBrace
  | expectedCommaOrBracket
  | expectedValue
  | expectedIdent
  | keyNotString
  | trailingComma
  | trailingCharacters
  | invalidNumber
  | numberOutOfRange
  | invalidEscape
  | endOfHexEscape
  | loneSurrogate
  | controlCharacter
  | tooDeep
  | shape (error : ShapeError)
deriving Inhabited

namespace ReadFault

def message : ReadFault → String
  | endOfValue => "EOF while parsing a value"
  | endOfString => "EOF while parsing a string"
  | endOfObject => "EOF while parsing an object"
  | endOfList => "EOF while parsing a list"
  | expectedColon => "expected `:`"
  | expectedCommaOrBrace => "expected `,` or `\x7d`"
  | expectedCommaOrBracket => "expected `,` or `]`"
  | expectedValue => "expected value"
  | expectedIdent => "expected ident"
  | keyNotString => "key must be a string"
  | trailingComma => "trailing comma"
  | trailingCharacters => "trailing characters"
  | invalidNumber => "invalid number"
  | numberOutOfRange => "number out of range"
  | invalidEscape => "invalid escape"
  | endOfHexEscape => "unexpected end of hex escape"
  | loneSurrogate => "lone leading surrogate in hex escape"
  | controlCharacter => "control character (\\u0000-\\u001F) found while parsing a string"
  | tooDeep => "recursion limit exceeded"
  | shape error => error.message

end ReadFault

-- A fault is placed by the number of bytes that are still unread, so readers take the rest of the
-- text and thread no position.
structure ReadError where
  fault : ReadFault
  -- How many bytes of the text lie behind the fault.
  unread : Nat
deriving Inhabited

-- The fault with its place in the text.
def ReadError.message (error : ReadError) (text : List Char) : String :=
  let position := Text.Position.ofOffset text (Text.utf8Length text - error.unread)
  s!"{error.fault.message} at line {position.line} column {position.column}"

abbrev Reading := Except ReadError

-- A fault right before the rest of the text.
def failBefore {α : Type} (fault : ReadFault) (rest : List Char) : Reading α :=
  .error ⟨fault, Text.utf8Length rest⟩

-- A fault one byte into the rest, or at the end if nothing is left.
def failInto {α : Type} (fault : ReadFault) (rest : List Char) : Reading α :=
  .error ⟨fault, Text.utf8Length rest - 1⟩

def skipBlanks (cs : List Char) : List Char :=
  cs.dropWhile fun c => c == ' ' || c == '\n' || c == '\t' || c == '\r'

-- The remaining letters of `null`, `true` or `false`.
def readWord : List Char → List Char → Reading (List Char)
  | [], rest => .ok rest
  | _ :: _, [] => failBefore .endOfValue []
  | expected :: word, c :: rest =>
    if c == expected then readWord word rest else failInto .expectedIdent (c :: rest)

section Strings

-- Four bytes, which must be hexadecimal digits.
def readHex4 (cs : List Char) : Reading (Nat × List Char) :=
  if Text.utf8Length cs < 4 then failBefore .endOfString []
  else
    match Text.hexValues? (cs.take 4) with
    | some n => .ok (n, cs.drop 4)
    | none => .error ⟨.invalidEscape, Text.utf8Length cs - 4⟩

def isLowSurrogate (unit : Nat) : Bool := 0xDC00 ≤ unit && unit ≤ 0xDFFF

def isHighSurrogate (unit : Nat) : Bool := 0xD800 ≤ unit && unit ≤ 0xDBFF

-- The second half of a pair of escapes, after the first one.
private def readLowSurrogate (high : Nat) : List Char → Reading (Char × List Char)
  | '\\' :: 'u' :: cs => do
    let (low, rest) ← readHex4 cs
    if isLowSurrogate low then
      .ok (Char.ofNat ((high - 0xD800) * 0x400 + (low - 0xDC00) + 0x10000), rest)
    else failBefore .loneSurrogate rest
  | [] => failBefore .endOfString []
  | '\\' :: [] => failBefore .endOfString []
  | '\\' :: rest => failInto .endOfHexEscape rest
  | rest => failInto .endOfHexEscape rest

-- What follows the backslash of an escape.
def readEscape : List Char → Reading (Char × List Char)
  | [] => failBefore .endOfString []
  | '"' :: rest => .ok ('"', rest)
  | '\\' :: rest => .ok ('\\', rest)
  | '/' :: rest => .ok ('/', rest)
  | 'b' :: rest => .ok ('\x08', rest)
  | 'f' :: rest => .ok ('\x0c', rest)
  | 'n' :: rest => .ok ('\n', rest)
  | 'r' :: rest => .ok ('\r', rest)
  | 't' :: rest => .ok ('\t', rest)
  | 'u' :: cs => do
    let (unit, rest) ← readHex4 cs
    if isLowSurrogate unit then failBefore .loneSurrogate rest
    else if isHighSurrogate unit then readLowSurrogate unit rest
    else .ok (Char.ofNat unit, rest)
  | rest => failInto .invalidEscape rest

-- The characters of a string up to its closing quote; `fuel` bounds their number.
def readChars : Nat → List Char → List Char → Reading (String × List Char)
  | _, _, [] => failBefore .endOfString []
  | 0, _, rest => failBefore .endOfString rest
  | _, acc, '"' :: rest => .ok (String.ofList acc.reverse, rest)
  | fuel + 1, acc, '\\' :: cs => do
    let (c, rest) ← readEscape cs
    readChars fuel (c :: acc) rest
  | fuel + 1, acc, c :: rest =>
    if c.toNat < 0x20 then failBefore .controlCharacter rest
    else readChars fuel (c :: acc) rest

-- A string after its opening quote.
def readString (cs : List Char) : Reading (String × List Char) := readChars cs.length [] cs

end Strings

section Numbers

-- Adds a digit to a word of 64 bits; none if it does not fit.
def pushDigit? (word : Nat) (c : Char) : Option Nat :=
  let next := word * 10 + (c.toNat - '0'.toNat)
  if next < 1 <<< 64 then some next else none

-- Takes digits into a word as long as they fit, and says how many did.
def takeDigits (word count : Nat) : List Char → Nat × Nat × List Char
  | [] => (word, count, [])
  | c :: rest =>
    if c.isDigit then
      match pushDigit? word c with
      | some next => takeDigits next (count + 1) rest
      | none => (word, count, c :: rest)
    else (word, count, c :: rest)

private def toNumber (negative : Bool) (word : Nat) (exponent : Int) (rest : List Char) :
    Reading (Number × List Char) :=
  match Double.ofDecimal? negative word exponent with
  | some d => .ok (.double d, rest)
  | none => failBefore .numberOutOfRange rest

-- The digits of an exponent, which must stay below 2³¹. Beyond, a positive exponent is out of range
-- unless the word is zero, and everything else is zero.
private def readExponentDigits (negative : Bool) (word : Nat) (start : Int) (raised : Bool)
    (exponent : Nat) : List Char → Reading (Number × List Char)
  | [] => toNumber negative word (if raised then start + exponent else start - exponent) []
  | c :: rest =>
    if c.isDigit then
      let next := exponent * 10 + (c.toNat - '0'.toNat)
      if next < 1 <<< 31 then readExponentDigits negative word start raised next rest
      else if word != 0 && raised then failBefore .numberOutOfRange rest
      else .ok (.double (.zero negative), rest.dropWhile Char.isDigit)
    else toNumber negative word (if raised then start + exponent else start - exponent) (c :: rest)

-- What follows the letter of an exponent.
def readExponent (negative : Bool) (word : Nat) (start : Int) (cs : List Char) :
    Reading (Number × List Char) :=
  let (raised, digits) :=
    match cs with
    | '+' :: rest => (true, rest)
    | '-' :: rest => (false, rest)
    | rest => (true, rest)
  match digits with
  | [] => failBefore .endOfValue []
  | c :: rest =>
    if c.isDigit then readExponentDigits negative word start raised 0 digits
    else failInto .invalidNumber (c :: rest)

-- What follows the digits of a number that is not an integer.
private def readTail (negative : Bool) (word : Nat) (exponent : Int) :
    List Char → Reading (Number × List Char)
  | 'e' :: rest => readExponent negative word exponent rest
  | 'E' :: rest => readExponent negative word exponent rest
  | rest => toNumber negative word exponent rest

-- What follows the point of a number. Digits beyond a word of 64 bits are dropped.
def readFraction (negative : Bool) (word : Nat) (exponent : Int) (cs : List Char) :
    Reading (Number × List Char) :=
  let (word', count, rest) := takeDigits word 0 cs
  match rest with
  | [] =>
    if count = 0 then failInto .endOfValue []
    else toNumber negative word' (exponent - count) []
  | c :: _ =>
    if c.isDigit then readTail negative word' (exponent - count) (rest.dropWhile Char.isDigit)
    else if count = 0 then failInto .invalidNumber rest
    else readTail negative word' (exponent - count) rest

-- A whole number: an integer if it has a sign and fits into 64 bits. Minus zero is a double.
def ofWord (negative : Bool) (word : Nat) : Number :=
  if !negative then .integer word
  else if word = 0 || 1 <<< 63 < word then .double ((Double.ofRatio? true word 1).getD (.zero true))
  else .integer (-word)

private def readAfterDigits (negative : Bool) (word : Nat) :
    List Char → Reading (Number × List Char)
  | '.' :: rest => readFraction negative word 0 rest
  | 'e' :: rest => readExponent negative word 0 rest
  | 'E' :: rest => readExponent negative word 0 rest
  | rest => .ok (ofWord negative word, rest)

-- A number after its sign. Integer digits beyond a word of 64 bits count as places.
def readNumber (negative : Bool) (cs : List Char) : Reading (Number × List Char) :=
  match cs with
  | [] => failBefore .endOfValue []
  | '0' :: rest =>
    match rest with
    | c :: _ => if c.isDigit then failInto .invalidNumber rest else readAfterDigits negative 0 rest
    | [] => readAfterDigits negative 0 []
  | c :: _ =>
    if c.isDigit then
      let (word, _, rest) := takeDigits 0 0 cs
      let extra := rest.takeWhile Char.isDigit
      if extra.isEmpty then readAfterDigits negative word rest
      else
        match rest.dropWhile Char.isDigit with
        | '.' :: tail => readFraction negative word extra.length tail
        | tail => readTail negative word extra.length tail
    else failInto .invalidNumber cs

end Numbers

-- The colon after the name of a member.
def readColon (cs : List Char) : Reading (List Char) :=
  match skipBlanks cs with
  | ':' :: rest => .ok rest
  | [] => failInto .endOfObject []
  | rest => failInto .expectedColon rest

-- The name of a member and the colon after it, after the opening quote of the name.
def readKey (cs : List Char) : Reading (String × List Char) := do
  let (key, rest) ← readString cs
  return (key, ← readColon rest)

-- Whether another element of an array follows, and the text from there.
def nextItem (first : Bool) (cs : List Char) : Reading (Bool × List Char) :=
  match skipBlanks cs with
  | [] => failInto .endOfList []
  | ']' :: rest => .ok (false, ']' :: rest)
  | c :: rest =>
    if first then .ok (true, c :: rest)
    else if c == ',' then
      match skipBlanks rest with
      | [] => failInto .endOfValue []
      | ']' :: rest => failInto .trailingComma (']' :: rest)
      | rest => .ok (true, rest)
    else failInto .expectedCommaOrBracket (c :: rest)

-- Whether another member of an object follows, and the text after the quote that opens its name.
def nextMember (first : Bool) (cs : List Char) : Reading (Bool × List Char) :=
  match skipBlanks cs with
  | [] => failInto .endOfObject []
  | '\x7d' :: rest => .ok (false, '\x7d' :: rest)
  | c :: rest =>
    if first then
      if c == '"' then .ok (true, rest) else failInto .keyNotString (c :: rest)
    else if c == ',' then
      match skipBlanks rest with
      | [] => failInto .endOfValue []
      | '"' :: rest => .ok (true, rest)
      | '\x7d' :: rest => failInto .trailingComma ('\x7d' :: rest)
      | rest => failInto .keyNotString rest
    else failInto .expectedCommaOrBrace (c :: rest)

-- How many arrays and objects may enclose a value.
def maxDepth : Nat := 127

mutual

-- A value, inside which `depth` more arrays and objects may be opened; `fuel` bounds the steps.
def readValue (fuel depth : Nat) (cs : List Char) : Reading (Json × List Char) :=
  match fuel with
  | 0 => failBefore .tooDeep cs
  | fuel + 1 =>
    match skipBlanks cs with
    | [] => failInto .endOfValue []
    | 'n' :: rest => do return (null, ← readWord ['u', 'l', 'l'] rest)
    | 't' :: rest => do return (bool true, ← readWord ['r', 'u', 'e'] rest)
    | 'f' :: rest => do return (bool false, ← readWord ['a', 'l', 's', 'e'] rest)
    | '"' :: rest => do
      let (s, rest) ← readString rest
      return (string s, rest)
    | '-' :: rest => do
      let (n, rest) ← readNumber true rest
      return (number n, rest)
    | '[' :: rest =>
      match depth with
      | 0 => failInto .tooDeep ('[' :: rest)
      | depth + 1 => do
        let (items, rest) ← readItems fuel depth true [] rest
        return (array items, rest)
    | '\x7b' :: rest =>
      match depth with
      | 0 => failInto .tooDeep ('\x7b' :: rest)
      | depth + 1 => do
        let (members, rest) ← readMembers fuel depth true [] rest
        return (object members, rest)
    | c :: rest =>
      if c.isDigit then do
        let (n, rest) ← readNumber false (c :: rest)
        return (number n, rest)
      else failInto .expectedValue (c :: rest)

-- The elements of an array up to its closing bracket.
def readItems (fuel depth : Nat) (first : Bool) (acc : List Json) (cs : List Char) :
    Reading (List Json × List Char) :=
  match fuel with
  | 0 => failBefore .tooDeep cs
  | fuel + 1 => do
    let (more, rest) ← nextItem first cs
    if more then
      let (item, rest) ← readValue fuel depth rest
      readItems fuel depth false (item :: acc) rest
    else .ok (acc.reverse, rest.drop 1)

-- The members of an object up to its closing brace.
def readMembers (fuel depth : Nat) (first : Bool) (acc : Members) (cs : List Char) :
    Reading (Members × List Char) :=
  match fuel with
  | 0 => failBefore .tooDeep cs
  | fuel + 1 => do
    let (more, rest) ← nextMember first cs
    if more then
      let (key, rest) ← readKey rest
      let (value, rest) ← readValue fuel depth rest
      readMembers fuel depth false (acc.insert key value) rest
    else .ok (acc, rest.drop 1)

end

-- Fuel for every step on a text: each character begins at most one value, item or member.
def fuelFor (cs : List Char) : Nat := 2 * cs.length + 2

-- Nothing but blanks may follow a document.
def readEnd (cs : List Char) : Reading Unit :=
  match skipBlanks cs with
  | [] => .ok ()
  | rest => failInto .trailingCharacters rest

-- A whole document.
def parse (text : String) : Reading Json := do
  let cs := text.toList
  let (value, rest) ← readValue (fuelFor cs) maxDepth cs
  readEnd rest
  return value

end Vetting.Json
