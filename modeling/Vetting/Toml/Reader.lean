import Vetting.Toml.Scalar
import Vetting.Toml.Text

namespace Vetting.Toml

mutual

-- A value, inside which `depth` more arrays and tables may be opened; `fuel` bounds the steps.
def readValue (fuel depth : Nat) (cs : List Char) : Option (Value × List Char) :=
  match fuel, depth, cs with
  | 0, _, _ => none
  | _, _, '"' :: _ => (readString cs).map fun (text, rest) => (.string text, rest)
  | _, _, '\'' :: _ => (readString cs).map fun (text, rest) => (.string text, rest)
  | fuel + 1, depth + 1, '[' :: rest => readItems fuel depth [] rest
  | fuel + 1, depth + 1, '\x7b' :: rest =>
    match skipSpaces rest with
    | '\x7d' :: rest => some (.table .braces [], rest)
    | rest => readPairs fuel depth [] rest
  | _, _, _ => readScalar cs

-- The elements of an array up to its closing bracket, with a comma between them and possibly
-- behind the last one.
def readItems (fuel depth : Nat) (acc : List Value) (cs : List Char) : Option (Value × List Char) :=
  match fuel with
  | 0 => none
  | fuel + 1 =>
    match skipFiller cs.length cs with
    | ']' :: rest => some (.array acc.reverse, rest)
    | rest => do
      let (item, rest) ← readValue fuel depth rest
      match skipFiller rest.length rest with
      | ',' :: rest => readItems fuel depth (item :: acc) rest
      | ']' :: rest => some (.array (item :: acc).reverse, rest)
      | _ => none

-- The members of a table up to its closing brace, with a comma between them.
def readPairs (fuel depth : Nat) (members : Members) (cs : List Char) :
    Option (Value × List Char) :=
  match fuel with
  | 0 => none
  | fuel + 1 => do
    let ((path, key), rest) ← readKey cs
    match rest with
    | '=' :: rest =>
      let (value, rest) ← readValue fuel depth (skipSpaces rest)
      let members ← members.addDotted? key value path
      match skipSpaces rest with
      | ',' :: rest => readPairs fuel depth members rest
      | '\x7d' :: rest => some (.table .braces members, rest)
      | _ => none
    | _ => none

end

-- A document as far as it has been read: its members, and the keys of the table to which the next
-- ones belong.
structure Document where
  members : Members := []
  current : List String := []

-- A line with the header of a table, after its opening bracket.
private def readHeader (document : Document) (cs : List Char) : Option (Document × List Char) := do
  let ((path, key), rest) ← readKey cs
  match rest with
  | ']' :: rest =>
    let members ← document.members.changeAt? (·.openTable? key) path
    return (⟨members, path ++ [key]⟩, ← lineEnd? rest)
  | _ => none

-- A line with a header in double brackets, after the opening ones.
private def readElementHeader (document : Document) (cs : List Char) :
    Option (Document × List Char) := do
  let ((path, key), rest) ← readKey cs
  match rest with
  | ']' :: ']' :: rest =>
    let members ← document.members.changeAt? (·.openElement? key) path
    return (⟨members, path ++ [key]⟩, ← lineEnd? rest)
  | _ => none

-- A line with a key and a value.
private def readPair (document : Document) (cs : List Char) : Option (Document × List Char) := do
  let ((path, key), rest) ← readKey cs
  match rest with
  | '=' :: rest =>
    let (value, rest) ← readValue (2 * rest.length + 2) maxDepth (skipSpaces rest)
    let members ← document.members.changeAt? (·.addDotted? key value path) document.current
    return ({ document with members }, ← lineEnd? rest)
  | _ => none

-- The lines of a document, `fuel` at most.
private def readLines : Nat → Document → List Char → Option Members
  | 0, _, _ => none
  | fuel + 1, document, cs =>
    match skipSpaces cs with
    | [] => some document.members
    | '[' :: '[' :: rest => do
      let (document, rest) ← readElementHeader document rest
      readLines fuel document rest
    | '[' :: rest => do
      let (document, rest) ← readHeader document rest
      readLines fuel document rest
    | c :: rest =>
      if c == '#' || c == '\n' || c == '\r' then do
        readLines fuel document (← lineEnd? (c :: rest))
      else do
        let (document, rest) ← readPair document (c :: rest)
        readLines fuel document rest

-- The members of a document; none if it is malformed. A byte order mark before it does not count.
def parse (text : String) : Option Members :=
  match text.toList with
  | '\ufeff' :: cs => readLines (cs.length + 2) {} cs
  | cs => readLines (cs.length + 2) {} cs

end Vetting.Toml
