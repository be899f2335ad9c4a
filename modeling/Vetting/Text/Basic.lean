namespace Vetting.Text

-- A row `(first, last, step)` holds every `step`-th code point from `first` to `last`.
abbrev Table := List (Nat × Nat × Nat)

namespace Table

def hasCode (table : Table) (code : Nat) : Bool :=
  table.any fun (first, last, step) =>
    first ≤ code && code ≤ last && (code - first) % step == 0

def has (table : Table) (c : Char) : Bool := table.hasCode c.toNat

end Table

-- The Unicode property White_Space.
def blanks : Table :=
  [(0x9, 0xD, 1), (0x20, 0x20, 1), (0x85, 0x85, 1), (0xA0, 0xA0, 1), (0x1680, 0x1680, 1),
   (0x2000, 0x200A, 1), (0x2028, 0x2029, 1), (0x202F, 0x202F, 1), (0x205F, 0x205F, 1),
   (0x3000, 0x3000, 1)]

def isBlank (c : Char) : Bool := blanks.has c

-- Whether nothing is left of a text after trimming.
def isBlankText (s : String) : Bool := s.toList.all isBlank

-- The value of a digit, in either case.
def hexValue? (c : Char) : Option Nat :=
  if c.isDigit then some (c.toNat - '0'.toNat)
  else if 'a' ≤ c && c ≤ 'f' then some (c.toNat - 'a'.toNat + 10)
  else if 'A' ≤ c && c ≤ 'F' then some (c.toNat - 'A'.toNat + 10)
  else none

def isHexDigit (c : Char) : Bool := (hexValue? c).isSome

-- The number that some characters write; none if one of them is no digit.
def hexValues? (cs : List Char) : Option Nat :=
  cs.foldlM (fun n c => (hexValue? c).map (16 * n + ·)) 0

-- The pieces between separators, one more than there are separators.
def splitOn {α : Type} (isSeparator : α → Bool) : List α → List (List α)
  | [] => [[]]
  | c :: rest =>
    match splitOn isSeparator rest with
    | [] => [[c]]
    | piece :: pieces => if isSeparator c then [] :: piece :: pieces else (c :: piece) :: pieces

namespace Table

-- A row in hexadecimal digits: `A` is a code point, `A-B` are those from A to B and `A-B/S` every
-- S-th of them.
def row? (cs : List Char) : Option (Nat × Nat × Nat) := do
  match ← (splitOn (fun c => c == '-' || c == '/') cs).mapM hexValues? with
  | [code] => return (code, code, 1)
  | [first, last] => return (first, last, 1)
  | [first, last, step] => return (first, last, step)
  | _ => none

-- The rows of a text, between spaces.
def ofText (text : String) : Table := (splitOn (· == ' ') text.toList).filterMap row?

end Table

-- A text without the carriage return at its end.
def dropReturn (line : List Char) : List Char :=
  if line.getLast? == some '\r' then line.dropLast else line

-- The lines of a text. A line ends with a line feed, to which a carriage return before it belongs.
-- What follows the last line feed is a line unless it is empty.
def lines (text : List Char) : List (List Char) :=
  let pieces := splitOn (· == '\n') text
  let last := pieces.getLastD []
  pieces.dropLast.map dropReturn ++ if last.isEmpty then [] else [last]

-- The length in UTF-16 code units: characters beyond the basic plane count twice.
def utf16Length (s : String) : Nat :=
  s.toList.foldr (fun c length => (if c.toNat < 0x10000 then 1 else 2) + length) 0

-- The length in UTF-8 bytes.
def utf8Length (cs : List Char) : Nat := cs.foldr (fun c length => c.utf8Size + length) 0

-- Where a byte offset lies in a text.
structure Position where
  line : Nat
  column : Nat
deriving DecidableEq, Repr

namespace Position

-- Lines count from one, and columns are the bytes of the line before the offset.
def advance (position : Position) (offset : Nat) : List Char → Position
  | [] => position
  | c :: rest =>
    if offset < c.utf8Size then ⟨position.line, position.column + offset⟩
    else if c == '\n' then advance ⟨position.line + 1, 0⟩ (offset - 1) rest
    else advance ⟨position.line, position.column + c.utf8Size⟩ (offset - c.utf8Size) rest

def ofOffset (text : List Char) (offset : Nat) : Position := advance ⟨1, 0⟩ offset text

end Position

end Vetting.Text
