import Vetting.Pattern.CharSet
import Vetting.Text.Ages
import Vetting.Text.Properties
import Vetting.Text.Scripts

namespace Vetting.Pattern

namespace Property

-- Spaces, dashes, underscores and what is not ASCII do not count in a name.
def counts (c : Char) : Bool := c != ' ' && c != '-' && c != '_' && c.toNat < 0x80

def startsWithIs : List Char → Bool
  | i :: s :: _ => i.toLower == 'i' && s.toLower == 's'
  | _ => false

-- What counts in a name, in lower case. An `is` in front does not count, but it makes up the name
-- `isc` with a `c`. All names are made of letters, digits and dots.
def symbol? (name : List Char) : Option String :=
  let counted := name.filter counts
  if counted.all fun c => c.isAlphanum || c == '.' then
    let text := counted.map Char.toLower
    some (String.ofList (if startsWithIs name && text != ['i', 's', 'c'] then text.drop 2 else text))
  else none

-- What stands before and behind the first place of a mark.
def cutAt? (mark : List Char) : List Char → Option (List Char × List Char)
  | [] => none
  | c :: rest =>
    if mark.isPrefixOf (c :: rest) then some ([], (c :: rest).drop mark.length)
    else (cutAt? mark rest).map fun (front, back) => (c :: front, back)

-- The property and the value that a name gives. All marks between them mean that they are equal.
def cut? (name : List Char) : Option (List Char × List Char) :=
  cutAt? ['!', '='] name <|> cutAt? [':'] name <|> cutAt? ['='] name

section Sets

def setOf (rows : Text.Table) : CharSet := .property (.listed rows)

def assigned : CharSet := setOf (Text.generalCategories.flatMap (·.table))

def category? (name : String) : Option CharSet :=
  match name with
  | "any" => some (.complement .empty)
  | "ascii" => some (.range '\x00' '\x7f')
  | "assigned" => some assigned
  | "cn" | "unassigned" => some (.complement assigned)
  | "c" | "other" =>
    some (.union (.complement assigned) (setOf (Text.ofCategories ["cc", "cf", "co"])))
  | name =>
    match Text.categoryGroups.find? (·.1.contains name) with
    | some (_, members) => some (setOf (Text.ofCategories members))
    | none => (Text.generalCategories.find? (·.names.contains name)).map (setOf ·.table)

def script? (name : String) : Option CharSet :=
  (Text.scripts.find? (·.names.contains name)).map (setOf ·.table)

-- The characters of a script alone, and those that it shares.
def extensions? (name : String) : Option CharSet := do
  let script ← Text.scripts.find? (·.names.contains name)
  let alone := .difference (setOf script.table) (setOf (Text.scriptExtensions.flatMap (·.table)))
  let shared := Text.scriptExtensions.filter (·.names.any script.names.contains)
  return .union alone (setOf (shared.flatMap (·.table)))

-- What a version has, or one before it.
def age? (name : String) : Option CharSet := do
  let last ← Text.ages.findIdx? (·.names.contains name)
  return setOf ((Text.ages.take (last + 1)).flatMap (·.table))

def derived? (sets : List Text.DerivedSet) (name : String) : Option CharSet := do
  let set ← sets.find? (·.names.contains name)
  return .difference (setOf set.members) (setOf set.exceptions)

def value? (property value : String) : Option CharSet :=
  match property with
  | "gc" | "generalcategory" => category? value
  | "sc" | "script" => script? value
  | "scx" | "scriptextensions" => extensions? value
  | "age" => age? value
  | "gcb" | "graphemeclusterbreak" => derived? Text.graphemeBreaks value
  | "wb" | "wordbreak" => derived? Text.wordBreaks value
  | "sb" | "sentencebreak" => derived? Text.sentenceBreaks value
  | _ => none

-- The set that a name behind `\p` stands for.
def ofName? (name : List Char) : Option CharSet :=
  match cut? name with
  | some (property, value) => do value? (← symbol? property) (← symbol? value)
  | none => do
    let name ← symbol? name
    derived? Text.binaryProperties name <|> category? name <|> script? name

end Sets

end Property

end Vetting.Pattern
