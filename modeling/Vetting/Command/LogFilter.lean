import Vetting.Text.Basic
import Vetting.Text.Letters

namespace Vetting.LogFilter

def levels : List String :=
  ["trace", "debug", "info", "warn", "error", "off", "0", "1", "2", "3", "4", "5"]

-- Letter case does not count in the names of levels.
def isLevel (cs : List Char) : Bool := levels.contains (String.ofList (cs.map Char.toLower))

private def isTargetCharacter (c : Char) : Bool := Text.isWord c || c == ':' || c == '-'

-- A target, and possibly a span in brackets behind it or in its place.
def isTarget (cs : List Char) : Bool :=
  let span := cs.dropWhile isTargetCharacter
  !cs.isEmpty &&
    match span with
    | [] => true
    | '[' :: rest => rest.getLast? == some ']' && !(rest.dropLast.contains ']')
    | _ => false

-- A level, or a target with an optional level behind an equals sign.
def isDirective (cs : List Char) : Bool :=
  let target := cs.takeWhile (· != '=')
  match cs.drop target.length with
  | [] => isLevel cs || isTarget cs
  | _ :: level => isTarget target && (level.isEmpty || isLevel level)

-- An empty filter has no directives; otherwise all pieces must be directives.
def isValid (filter : String) : Bool :=
  filter.isEmpty || (Text.splitOn (· == ',') filter.toList).all isDirective

end Vetting.LogFilter
