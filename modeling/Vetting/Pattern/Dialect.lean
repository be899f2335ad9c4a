import Vetting.Pattern.Flags

namespace Vetting.Pattern.Dialect

-- Bodies of the classes that stand for the shorthands.
def digits : List Char := "0-9".toList

def wordCharacters : List Char := "A-Za-z0-9_".toList

def spaces : List Char :=
  ("\\t\\n\\x0B\\x0C\\r \\xA0\\x\x7b1680\x7d\\x\x7b2000\x7d-\\x\x7b200A\x7d\\x\x7b2028\x7d" ++
    "\\x\x7b2029\x7d\\x\x7b202F\x7d\\x\x7b205F\x7d\\x\x7b3000\x7d\\x\x7bFEFF\x7d").toList

def lineTerminators : List Char := "\\n\\r\\x\x7b2028\x7d\\x\x7b2029\x7d".toList

-- Whether a character stands outside or inside a class.
inductive Place where
  | outside
  | inside
deriving DecidableEq, Repr

-- What has been read of the current token.
inductive Scan where
  -- Between two tokens.
  | ready (place : Place)
  -- After the bracket that opens a class, and after a caret behind it.
  | opened
  | openedNegated
  -- After a backslash, after `\0` and after `\c`.
  | escaped (place : Place)
  | zero (place : Place)
  | control (place : Place)
  -- In a class, after a shorthand, where a dash can only be a literal one.
  | afterShorthand
deriving DecidableEq, Repr

-- A bracketed class with the given body.
def bracketed (negated : Bool) (body : List Char) : List Char :=
  (if negated then ['[', '^'] else ['[']) ++ body ++ [']']

-- A shorthand: a class of its own, or only its body where a class is open already.
def shorthand (place : Place) (negated : Bool) (body : List Char) : List Char :=
  if place == .inside && !negated then body else bracketed negated body

def group (body : List Char) : List Char := "(?:".toList ++ body ++ [')']

def lookaround (opening : String) (body : List Char) : List Char :=
  opening.toList ++ bracketed false body ++ [')']

def afterWord : List Char := lookaround "(?<=" wordCharacters

def notAfterWord : List Char := lookaround "(?<!" wordCharacters

def beforeWord : List Char := lookaround "(?=" wordCharacters

def notBeforeWord : List Char := lookaround "(?!" wordCharacters

-- A word character on exactly one side.
def boundary : List Char :=
  group (notAfterWord ++ beforeWord ++ ['|'] ++ afterWord ++ notBeforeWord)

-- A word character on both sides or on neither.
def noBoundary : List Char :=
  group (afterWord ++ beforeWord ++ ['|'] ++ notAfterWord ++ notBeforeWord)

-- The start of the text or of a line, and the end of one.
def lineStart : List Char :=
  group ("\\A|".toList ++ lookaround "(?<=" lineTerminators)

def lineEnd : List Char :=
  group ("\\z|".toList ++ lookaround "(?=" lineTerminators)

-- A class that no character is in, and one that every character is in.
def nothing : List Char := "[^\\s\\S]".toList

def anything : List Char := "[\\s\\S]".toList

def hexDigits (n : Nat) : List Char :=
  [(Nat.digitChar (n / 16)).toUpper, (Nat.digitChar (n % 16)).toUpper]

-- The control character named by a letter.
def controlCharacter (letter : Char) : List Char := '\\' :: 'x' :: hexDigits (letter.toNat % 32)

-- A character at which a token begins.
def begin (flags : Flags) : Place → Char → Scan × List Char
  | .inside, c =>
    match c with
    | '\\' => (.escaped .inside, [])
    | ']' => (.ready .outside, [']'])
    | '[' | '&' | '~' => (.ready .inside, ['\\', c])
    | c => (.ready .inside, [c])
  | .outside, c =>
    match c with
    | '\\' => (.escaped .outside, [])
    | '[' => (.opened, [])
    | '.' => (.ready .outside, if flags.dotAll then anything else bracketed true lineTerminators)
    | '^' => (.ready .outside, if flags.multiLine then lineStart else ['^'])
    | '$' => (.ready .outside, if flags.multiLine then lineEnd else ['$'])
    | c => (.ready .outside, [c])

-- The state after a shorthand.
def behindShorthand : Place → Scan
  | .inside => .afterShorthand
  | .outside => .ready .outside

-- The character after a backslash.
def escape (place : Place) (c : Char) : Scan × List Char :=
  match c with
  | 'd' => (behindShorthand place, shorthand place false digits)
  | 'D' => (behindShorthand place, shorthand place true digits)
  | 'w' => (behindShorthand place, shorthand place false wordCharacters)
  | 'W' => (behindShorthand place, shorthand place true wordCharacters)
  | 's' => (behindShorthand place, shorthand place false spaces)
  | 'S' => (behindShorthand place, shorthand place true spaces)
  | 'b' =>
    match place with
    | .inside => (.ready .inside, "\\x08".toList)
    | .outside => (.ready .outside, boundary)
  | 'B' => (.ready place, noBoundary)
  | '0' => (.zero place, [])
  | 'c' => (.control place, [])
  | '/' => (.ready place, ['/'])
  | c => (.ready place, ['\\', c])

-- What a token leaves to be written when it ends before the next character.
def pendingText : Scan → List Char
  | .ready _ | .afterShorthand => []
  | .opened => ['[']
  | .openedNegated => ['[', '^']
  | .escaped _ => ['\\']
  | .zero _ => "\\x00".toList
  | .control _ => ['\\', 'c']

-- The pending text, and then a token that begins at the character.
def pendingThen (flags : Flags) (pending : List Char) (place : Place) (c : Char) :
    Scan × List Char :=
  let (scan, text) := begin flags place c
  (scan, pending ++ text)

-- One character. Whatever is not recognised is passed on, so that the parser of the dialect reports
-- it.
def step (flags : Flags) (scan : Scan) (c : Char) : Scan × List Char :=
  match scan with
  | .ready place => begin flags place c
  | .opened =>
    match c with
    | '^' => (.openedNegated, [])
    | ']' => (.ready .outside, nothing)
    | c => pendingThen flags (pendingText scan) .inside c
  | .openedNegated =>
    match c with
    | ']' => (.ready .outside, anything)
    | c => pendingThen flags (pendingText scan) .inside c
  | .escaped place => escape place c
  -- Before a digit, `\0` is no character but a reference.
  | .zero place =>
    pendingThen flags (if c.isDigit then ['\\', '0'] else pendingText scan) place c
  | .control place =>
    if c.isAlpha then (.ready place, controlCharacter c)
    else pendingThen flags (pendingText scan) place c
  | .afterShorthand => if c == '-' then (.ready .inside, ['\\', '-']) else begin flags .inside c

-- The state after some characters, and what they are written as.
def scan (flags : Flags) : Scan → List Char → Scan × List Char
  | state, [] => (state, [])
  | state, c :: rest =>
    let (next, text) := step flags state c
    let (final, texts) := scan flags next rest
    (final, text ++ texts)

-- The pattern without its mode.
def body (flags : Flags) (pattern : List Char) : List Char :=
  let (final, text) := scan flags (.ready .outside) pattern
  text ++ pendingText final

-- The whole pattern, case-blind as a whole under flag `i`.
def spell (flags : Flags) (pattern : String) : String :=
  String.ofList ((if flags.ignoreCase then "(?i)".toList else []) ++ body flags pattern.toList)

end Vetting.Pattern.Dialect
