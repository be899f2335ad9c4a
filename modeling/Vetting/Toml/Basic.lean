namespace Vetting.Toml

-- What opened a table. A table belongs to what opened it, and nothing is defined twice.
inductive Origin where
  -- Braces; such a table is complete.
  | braces
  | header
  -- The header of a table inside it; its own header may still follow.
  | innerHeader
  | dottedKey
deriving DecidableEq, Repr, Inhabited

inductive Value where
  | string (text : String)
  | integer (value : Int)
  | float (text : String)
  | boolean (value : Bool)
  | datetime (text : String)
  | array (items : List Value)
  | table (origin : Origin) (members : List (String × Value))
  -- The tables under a header in double brackets.
  | tables (elements : List (List (String × Value)))
deriving Inhabited

abbrev Members := List (String × Value)

namespace Members

def set (key : String) (value : Value) (members : Members) : Members :=
  if (members.lookup key).isSome then
    members.map fun (k, v) => if k == key then (k, value) else (k, v)
  else members ++ [(key, value)]

-- Adds a member under a key that is new.
def add? (key : String) (value : Value) (members : Members) : Option Members :=
  if (members.lookup key).isSome then none else some (members ++ [(key, value)])

-- Changes the last one of some tables.
private def changeLast? (change : Members → Option Members) (elements : List Members) :
    Option (List Members) := do
  let last ← elements.getLast?
  return elements.dropLast ++ [← change last]

-- Adds a member under a dotted key, given as the keys before the last one and the last one. The
-- tables on the way may only stem from dotted keys, or lie around the table of a header.
def addDotted? (key : String) (value : Value) : List String → Members → Option Members
  | [], members => members.add? key value
  | step :: path, members =>
    match members.lookup step with
    | none => do
      return members ++ [(step, .table .dottedKey (← addDotted? key value path []))]
    | some (.table .dottedKey inner) => do
      return members.set step (.table .dottedKey (← addDotted? key value path inner))
    | some (.table .innerHeader inner) => do
      if path.isEmpty then none
      return members.set step (.table .innerHeader (← addDotted? key value path inner))
    | some (.tables elements) => do
      if path.isEmpty then none
      return members.set step (.tables (← changeLast? (addDotted? key value path) elements))
    | some _ => none

-- Changes the table to which the keys of a header lead. Tables on the way are made if there are
-- none, and of several tables the last one counts.
def changeAt? (change : Members → Option Members) : List String → Members → Option Members
  | [], members => change members
  | step :: path, members =>
    match members.lookup step with
    | none => do
      return members ++ [(step, .table .innerHeader (← changeAt? change path []))]
    | some (.table .braces _) => none
    | some (.table origin inner) => do
      return members.set step (.table origin (← changeAt? change path inner))
    | some (.tables elements) => do
      return members.set step (.tables (← changeLast? (changeAt? change path) elements))
    | some _ => none

-- Opens a table by its header. Only the header of an inner table may have opened it before.
def openTable? (key : String) (members : Members) : Option Members :=
  match members.lookup key with
  | none => some (members ++ [(key, .table .header [])])
  | some (.table .innerHeader inner) => some (members.set key (.table .header inner))
  | some _ => none

-- Opens another table by a header in double brackets.
def openElement? (key : String) (members : Members) : Option Members :=
  match members.lookup key with
  | none => some (members ++ [(key, .tables [[]])])
  | some (.tables elements) => some (members.set key (.tables (elements ++ [[]])))
  | some _ => none

end Members

end Vetting.Toml
