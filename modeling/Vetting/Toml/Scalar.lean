import Vetting.Number.Double
import Vetting.Text.Basic
import Vetting.Toml.Basic

namespace Vetting.Toml

-- Numbers, truth values and times are words of these characters.
def isWordCharacter (c : Char) : Bool := c.isAlphanum || ['+', '-', '_', '.', ':'].contains c

section Numbers

-- The digits of a number without the underscores, each of which must stand between two digits.
def digits? (isDigit : Char → Bool) (cs : List Char) : Option (List Char) :=
  let groups := Text.splitOn (· == '_') cs
  if groups.all fun group => !group.isEmpty && group.all isDigit then some groups.flatten else none

private def natOf (base : Nat) (digits : List Char) : Nat :=
  digits.foldl (fun n c => n * base + (Text.hexValue? c).getD 0) 0

-- The sign of a word, and the word behind it.
private def unsigned : List Char → Bool × List Char
  | '+' :: rest => (false, rest)
  | '-' :: rest => (true, rest)
  | rest => (false, rest)

-- Decimal digits without a needless zero at their head.
private def wholeDigits? (cs : List Char) : Option (List Char) :=
  match cs with
  | '0' :: _ :: _ => none
  | _ => digits? Char.isDigit cs

private def inRange (value : Int) : Option Int :=
  if -(1 <<< 63 : Nat) ≤ value && value < (1 <<< 63 : Nat) then some value else none

private def radixInteger? (base : Nat) (isDigit : Char → Bool) (cs : List Char) : Option Int := do
  inRange (natOf base (← digits? isDigit cs))

-- A 64-bit integer: decimal with an optional sign, or in another base without one.
def integer? : List Char → Option Int
  | '0' :: 'x' :: cs => radixInteger? 16 Text.isHexDigit cs
  | '0' :: 'o' :: cs => radixInteger? 8 (fun c => '0' ≤ c && c ≤ '7') cs
  | '0' :: 'b' :: cs => radixInteger? 2 (fun c => c == '0' || c == '1') cs
  | cs => do
    let (negative, cs) := unsigned cs
    let value : Int := natOf 10 (← wholeDigits? cs)
    inRange (if negative then -value else value)

-- Whether digits times a power of ten stay below infinity.
private def isFinite (digits : Nat) (exponent : Int) : Bool :=
  let leading := ((toString digits).length : Int) + exponent
  if digits = 0 || leading < -400 then true
  else if 400 < leading then false
  else if 0 ≤ exponent then (Double.ofRatio? false (digits * Nat.pow 10 exponent.toNat) 1).isSome
  else (Double.ofRatio? false digits (Nat.pow 10 exponent.natAbs)).isSome

private def exponent? (cs : List Char) : Option Int := do
  let (negative, cs) := unsigned cs
  let value : Int := natOf 10 (← digits? Char.isDigit cs)
  return if negative then -value else value

-- Whether a word is a float: infinity, no number, or a decimal with a fraction or an exponent that
-- does not exceed the doubles.
def isFloat (word : List Char) : Bool :=
  let (negative, cs) := unsigned word
  if cs == ['i', 'n', 'f'] || cs == ['n', 'a', 'n'] then true
  else
    let mantissa := cs.takeWhile fun c => c != 'e' && c != 'E'
    let scale := (cs.drop mantissa.length).drop 1
    let hasScale := mantissa.length < cs.length
    let whole := mantissa.takeWhile (· != '.')
    let fraction := (mantissa.drop whole.length).drop 1
    let hasFraction := whole.length < mantissa.length
    let parts := do
      let whole ← wholeDigits? whole
      let fraction ← if hasFraction then digits? Char.isDigit fraction else some []
      let scale ← if hasScale then exponent? scale else some 0
      return (natOf 10 (whole ++ fraction), scale - fraction.length)
    match parts with
    | none => false
    | some (digits, exponent) =>
      (hasScale || hasFraction) && (negative || isFinite digits exponent)

end Numbers

section Times

-- A number of so many digits at the head of a word, within bounds.
private def field? (width low high : Nat) (cs : List Char) : Option (Nat × List Char) :=
  let digits := cs.take width
  let value := natOf 10 digits
  if digits.length == width && digits.all Char.isDigit && low ≤ value && value ≤ high then
    some (value, cs.drop width)
  else none

private def expect? (c : Char) : List Char → Option (List Char)
  | [] => none
  | d :: rest => if d == c then some rest else none

private def daysOf (year month : Nat) : Nat :=
  if month == 2 then
    if year % 4 == 0 && (year % 100 != 0 || year % 400 == 0) then 29 else 28
  else if [4, 6, 9, 11].contains month then 30
  else 31

-- The rest of a word behind a day.
private def date? (cs : List Char) : Option (List Char) := do
  let (year, rest) ← field? 4 0 9999 cs
  let (month, rest) ← field? 2 1 12 (← expect? '-' rest)
  let (_, rest) ← field? 2 1 (daysOf year month) (← expect? '-' rest)
  return rest

-- The rest of a word behind a time of day, which may have a fraction.
private def time? (cs : List Char) : Option (List Char) := do
  let (_, rest) ← field? 2 0 23 cs
  let (_, rest) ← field? 2 0 59 (← expect? ':' rest)
  let (_, rest) ← field? 2 0 60 (← expect? ':' rest)
  match rest with
  | '.' :: rest =>
    let digits := rest.takeWhile Char.isDigit
    if digits.isEmpty then none else some (rest.drop digits.length)
  | rest => some rest

-- Whether the rest of a word is a distance from universal time, or nothing.
private def isOffset : List Char → Bool
  | [] => true
  | ['Z'] => true
  | ['z'] => true
  | sign :: rest =>
    (sign == '+' || sign == '-') && (do
      let (_, rest) ← field? 2 0 23 rest
      let (_, rest) ← field? 2 0 59 (← expect? ':' rest)
      if rest.isEmpty then some () else none).isSome

def isDate (word : List Char) : Bool := (date? word).any (·.isEmpty)

private def isTime (word : List Char) : Bool := (time? word).any (·.isEmpty)

private def isTimeWithOffset (word : List Char) : Bool := (time? word).any isOffset

-- Whether a word is a day, a time of day, or both with an optional offset.
def isDatetime (word : List Char) : Bool :=
  isTime word ||
    match date? word with
    | none => false
    | some [] => true
    | some (c :: rest) => (c == 'T' || c == 't') && isTimeWithOffset rest

end Times

-- The value that a word stands for.
def scalar? (word : List Char) : Option Value :=
  if word == ['t', 'r', 'u', 'e'] then some (.boolean true)
  else if word == ['f', 'a', 'l', 's', 'e'] then some (.boolean false)
  else if isDatetime word then some (.datetime (String.ofList word))
  else
    match integer? word with
    | some value => some (.integer value)
    | none => if isFloat word then some (.float (String.ofList word)) else none

-- A word, and a second one behind a space if they are a day and a time.
def readScalar (cs : List Char) : Option (Value × List Char) :=
  let word := cs.takeWhile isWordCharacter
  let rest := cs.drop word.length
  match rest with
  | ' ' :: more =>
    let second := more.takeWhile isWordCharacter
    if isDate word && !second.isEmpty then do
      let value ← scalar? (word ++ 'T' :: second)
      return (value, more.drop second.length)
    else (scalar? word).map fun value => (value, rest)
  | _ => (scalar? word).map fun value => (value, rest)

end Vetting.Toml
