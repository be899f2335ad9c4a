import Vetting.Json.Skip
import Vetting.Text.Basic

namespace Vetting

-- A new value for a field.
structure Change where
  field : String
  value : Json := .null
deriving Inhabited

namespace Change

open Json (Members ReadFault Reading ShapeError failBefore failInto fuelFor readColon readString
  skipBlanks)

private def typeName : String := "struct Change"

-- How deeply a value may be nested inside a change.
private def valueDepth : Nat := Json.maxDepth - 1

private def readValue (cs : List Char) : Reading (Json × List Char) :=
  Json.readValue (fuelFor cs) valueDepth cs

-- Where a closing bracket is looked for once something is wrong inside the brackets: behind it, or
-- before whatever stands in its place.
private def afterObject (cs : List Char) : List Char :=
  match skipBlanks cs with
  | '\x7d' :: rest => rest
  | rest => rest

private def afterList (cs : List Char) : List Char :=
  match skipBlanks cs with
  | ']' :: rest => rest
  | ',' :: rest => skipBlanks rest
  | rest => rest

-- A value of a wrong type. It is placed behind a text, number or word, and before a bracket.
private def wrongType {α : Type} (expected : String) (cs : List Char) : Reading α :=
  match skipBlanks cs with
  | '[' :: rest => failBefore (.shape (.wrongType (.array []) expected)) ('[' :: rest)
  | '\x7b' :: rest => failBefore (.shape (.wrongType (.object []) expected)) ('\x7b' :: rest)
  | rest => do
    let (value, rest) ← readValue rest
    failBefore (.shape (.wrongType value expected)) rest

private def readField (cs : List Char) : Reading (String × List Char) :=
  match skipBlanks cs with
  | [] => failInto .endOfValue []
  | '"' :: rest => readString rest
  | rest => wrongType "a string" rest

-- The members of a change as far as they have been read.
private structure Parts where
  field : Option String := none
  value : Option Json := none

-- Reads the members of an object up to its closing brace. Unknown ones are passed over; `fuel`
-- bounds their number.
private def readMembers (fuel : Nat) (first : Bool) (parts : Parts) (cs : List Char) :
    Reading (Parts × List Char) :=
  match fuel with
  | 0 => failBefore .endOfObject cs
  | fuel + 1 => do
    let (more, rest) ← Json.nextMember first cs
    if !more then return (parts, rest)
    let (key, rest) ← readString rest
    match key with
    | "field" =>
      if parts.field.isSome then failBefore (.shape (.repeated "field")) (afterObject rest)
      let (field, rest) ← readField (← readColon rest)
      readMembers fuel false { parts with field := some field } rest
    | "value" =>
      if parts.value.isSome then failBefore (.shape (.repeated "value")) (afterObject rest)
      let (value, rest) ← readValue (← readColon rest)
      readMembers fuel false { parts with value := some value } rest
    | _ => readMembers fuel false parts (← Json.skipValue (← readColon rest))

private def readObject (cs : List Char) : Reading (Change × List Char) := do
  let (parts, rest) ← readMembers (cs.length + 1) true {} cs
  match parts.field with
  | none => failBefore (.shape (.missing "field")) (afterObject rest)
  | some field => return (⟨field, parts.value.getD .null⟩, afterObject rest)

-- The end of a list that may have no more elements.
private def closeList (cs : List Char) : Reading (List Char) :=
  match skipBlanks cs with
  | [] => failInto .endOfList []
  | ']' :: rest => .ok rest
  | ',' :: rest =>
    match skipBlanks rest with
    | ']' :: rest => failInto .trailingComma (']' :: rest)
    | rest => failInto .trailingCharacters rest
  | rest => failInto .trailingCharacters rest

-- Reads a change that is given as the list of its field and its value.
private def readList (cs : List Char) : Reading (Change × List Char) := do
  let (more, rest) ← Json.nextItem true cs
  if !more then
    failBefore (.shape (.wrongLength 0 s!"{typeName} with 2 elements")) (afterList rest)
  let (field, rest) ← readField rest
  let (more, rest) ← Json.nextItem false rest
  if !more then return (⟨field, .null⟩, ← closeList rest)
  let (value, rest) ← readValue rest
  return (⟨field, value⟩, ← closeList rest)

-- Reads a line that holds one change.
def ofLine (line : List Char) : Reading Change := do
  let (change, rest) ←
    match skipBlanks line with
    | [] => failInto .endOfValue []
    | '[' :: rest => readList rest
    | '\x7b' :: rest => readObject rest
    | rest => wrongType typeName rest
  Json.readEnd rest
  return change

end Change

-- A line that is no change, by its number in the script from one on.
structure ScriptError where
  line : Nat
  text : List Char
  error : Json.ReadError
deriving Inhabited

def ScriptError.message (error : ScriptError) : String :=
  s!"change line {error.line}: {error.error.message error.text}"

-- The changes of a script, in order. Blank lines are passed over but counted.
def Change.ofScript (script : String) : Except ScriptError (List Change) :=
  let numbered := (Text.lines script.toList).zipIdx 1
  let filled := numbered.filter fun (line, _) => !line.all Text.isBlank
  filled.mapM fun (line, number) =>
    (Change.ofLine line).mapError fun error => ⟨number, line, error⟩

end Vetting
