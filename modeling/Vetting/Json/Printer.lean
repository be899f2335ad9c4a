import Vetting.Json.Basic
import Vetting.Number.Layout

namespace Vetting

namespace Json

private def hexDigit (n : Nat) : Char := (Nat.digitChar n)

-- Quotes, backslashes and control characters are escaped; everything else stands for itself.
def escaped (c : Char) : List Char :=
  match c with
  | '"' => ['\\', '"']
  | '\\' => ['\\', '\\']
  | '\n' => ['\\', 'n']
  | '\r' => ['\\', 'r']
  | '\t' => ['\\', 't']
  | '\x08' => ['\\', 'b']
  | '\x0c' => ['\\', 'f']
  | c =>
    if c.toNat < 0x20 then
      ['\\', 'u', '0', '0', hexDigit (c.toNat / 16), hexDigit (c.toNat % 16)]
    else [c]

def quote (s : String) : String :=
  "\"" ++ String.ofList (s.toList.flatMap escaped) ++ "\""

def numberText : Number → String
  | .integer i => toString i
  | .double d => Layout.echo.text d

mutual

-- The text without any blank.
def compact : Json → String
  | null => "null"
  | bool b => if b then "true" else "false"
  | number n => numberText n
  | string s => quote s
  | array items => "[" ++ compactItems items ++ "]"
  | object members => "\x7b" ++ compactMembers members ++ "\x7d"

def compactItems : List Json → String
  | [] => ""
  | [item] => compact item
  | item :: rest => compact item ++ "," ++ compactItems rest

def compactMembers : List (String × Json) → String
  | [] => ""
  | [(key, value)] => quote key ++ ":" ++ compact value
  | (key, value) :: rest => quote key ++ ":" ++ compact value ++ "," ++ compactMembers rest

end

private def indentation (depth : Nat) : String := String.ofList (List.replicate (2 * depth) ' ')

mutual

-- The text with every item and member on a line of its own, indented by its depth.
def pretty (depth : Nat) : Json → String
  | array [] => "[]"
  | object [] => "\x7b\x7d"
  | array items => "[\n" ++ prettyItems (depth + 1) items ++ "\n" ++ indentation depth ++ "]"
  | object members =>
    "\x7b\n" ++ prettyMembers (depth + 1) members ++ "\n" ++ indentation depth ++ "\x7d"
  | value => compact value

def prettyItems (depth : Nat) : List Json → String
  | [] => ""
  | [item] => indentation depth ++ pretty depth item
  | item :: rest => indentation depth ++ pretty depth item ++ ",\n" ++ prettyItems depth rest

def prettyMembers (depth : Nat) : List (String × Json) → String
  | [] => ""
  | [(key, value)] => indentation depth ++ quote key ++ ": " ++ pretty depth value
  | (key, value) :: rest =>
    indentation depth ++ quote key ++ ": " ++ pretty depth value ++ ",\n" ++
      prettyMembers depth rest

end

end Json

end Vetting
