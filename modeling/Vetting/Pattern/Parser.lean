import Vetting.Pattern.Class
import Vetting.Pattern.Property
import Vetting.Pattern.Syntax
import Vetting.Text.Basic

namespace Vetting.Pattern

-- Modes that a pattern may switch with `(?i)` and the like.
structure Modes where
  ignoreCase : Bool := false
  multiLine : Bool := false
  dotAll : Bool := false
  swapGreed : Bool := false
deriving DecidableEq, Repr, Inhabited

namespace Parser

-- What an open group will be.
inductive GroupKind where
  | whole
  | scope
  | capture (index : Nat)
  | look (behind negative : Bool)
  | atomic
deriving DecidableEq, Repr

structure Group where
  kind : GroupKind
  -- The modes to go back to at the end of the group, if it had modes of its own.
  restore : Option Modes
  -- Finished branches and the finished pieces of the current one, the last first.
  branches : List Syntax
  pieces : List Syntax
deriving Repr

-- Open groups are kept on a stack, so a pattern is read from left to right in single steps, each of
-- which takes at least one character.
structure State where
  group : Group
  outer : List Group
  -- The last atom, as long as a quantifier may follow it.
  pending : Option Syntax
  modes : Modes
  -- Names of groups, the last first, and the number of groups opened so far.
  names : List (String × Nat)
  groups : Nat
  -- Whether some reference was a number.
  numbered : Bool
  -- Half the length of the pattern in bytes; references must be smaller.
  maxReference : Nat
deriving Repr

abbrev Parsing := Except SyntaxFault

namespace State

def start (pattern : List Char) : State where
  group := ⟨.whole, none, [], []⟩
  outer := []
  pending := none
  modes := {}
  names := []
  groups := 0
  numbered := false
  maxReference := Text.utf8Length pattern / 2

-- Makes the pending atom a piece of its branch. An empty one leaves no trace.
def settle (state : State) : State :=
  match state.pending with
  | none => state
  | some a =>
    let pieces := if a.isEmpty then state.group.pieces else a :: state.group.pieces
    { state with group := { state.group with pieces }, pending := none }

-- A new atom.
def push (state : State) (a : Syntax) : State := { state.settle with pending := some a }

-- A piece that no quantifier can follow.
def pushDone (state : State) (a : Syntax) : State := { (state.push a).settle with pending := none }

def pushChar (state : State) (c : Char) : State :=
  state.push (.char ((CharSet.single c).withCase state.modes.ignoreCase))

-- Ends the current branch.
def endBranch (state : State) : State :=
  let state := state.settle
  let branch := Syntax.ofItems state.group.pieces.reverse
  let group := state.group
  { state with group := { group with branches := branch :: group.branches, pieces := [] } }

-- The contents of the current group at its end. Names and numbers do not mix, which is looked at
-- where a group has only one branch.
def contents (state : State) : Parsing (State × Syntax) :=
  let state := state.endBranch
  if state.group.branches.length = 1 && state.numbered && !state.names.isEmpty then
    .error .mixedReferences
  else .ok (state, Syntax.ofBranches state.group.branches.reverse)

def depthLimit : Nat := 64

-- Whether one more group may be opened.
def checkDepth (state : State) : Parsing Unit :=
  if state.outer.length + 1 < depthLimit then .ok () else .error .tooDeep

def openGroup (state : State) (kind : GroupKind) (restore : Option Modes) : State :=
  let state := state.settle
  { state with group := ⟨kind, restore, [], []⟩, outer := state.group :: state.outer }

def openCapture (state : State) (name : Option String) : State :=
  let index := state.groups + 1
  let names :=
    match name with
    | some name => (name, index) :: state.names
    | none => state.names
  { state with groups := index, names }.openGroup (.capture index) none

def GroupKind.wrap : GroupKind → Syntax → Syntax
  | .whole, a => a
  | .scope, a => .scope a
  | .capture index, a => .capture index a
  | .look behind negative, a => .look behind negative a
  | .atomic, a => .atomic a

def closeGroup (state : State) : Parsing State := do
  let (state, a) ← state.contents
  match state.outer with
  | [] => .error .unopenedGroup
  | next :: outer =>
    let wrapped := GroupKind.wrap state.group.kind a
    let modes := state.group.restore.getD state.modes
    return { state with group := next, outer, modes, pending := some wrapped }

-- Replaces the pending atom by its repetition.
def repeatPending (state : State) (a : Syntax) (min : Nat) (max : Option Nat)
    (lazy possessive : Bool) : Parsing State :=
  if a.isRepeatable then
    let repeated := Syntax.repetition a min max (lazy == state.modes.swapGreed)
    let settled := if possessive then .atomic repeated else repeated
    .ok ({ state with pending := none }.pushDone settled)
  else .error .nothingToRepeat

-- A reference to a group that was opened already.
def pushReference (state : State) (index : Nat) : Parsing State :=
  if index ≤ state.groups then .ok (state.push (.backreference index)) else .error .badReference

end State

-- Skips comments `(?#…)`; a backslash in them takes the next character along.
def skipCommentBody : List Char → Parsing (List Char)
  | [] => .error .unclosedComment
  | ')' :: rest => .ok rest
  | ['\\'] => .error .unclosedComment
  | '\\' :: _ :: rest => skipCommentBody rest
  | _ :: rest => skipCommentBody rest

def skipComments : Nat → List Char → Parsing (List Char)
  | fuel + 1, '(' :: '?' :: '#' :: rest => do skipComments fuel (← skipCommentBody rest)
  | _, rest => .ok rest

def skipAllComments (cs : List Char) : Parsing (List Char) := skipComments cs.length cs

-- The value of a run of decimal digits; none for an empty run.
def decimal? (cs : List Char) : Option Nat :=
  if cs.isEmpty then none
  else some (cs.foldl (fun n c => 10 * n + (c.toNat - '0'.toNat)) 0)

-- A count that fits a machine word, and the text after it.
def readCount? (cs : List Char) : Option (Nat × List Char) := do
  let n ← decimal? (cs.takeWhile Char.isDigit)
  if n < 1 <<< 64 then some (n, cs.dropWhile Char.isDigit) else none

-- The counts of `{n}`, `{n,}`, `{n,m}`, `{,m}` or `{,}`, after the brace.
def readBraces? (cs : List Char) : Option (Nat × Option Nat × List Char) := do
  let (min, rest) ←
    match cs with
    | ',' :: _ => some (0, cs)
    | _ => readCount? cs
  match rest with
  | '\x7d' :: rest => some (min, some min, rest)
  | ',' :: rest =>
    let (max, rest) :=
      match readCount? rest with
      | some (max, rest) => (some max, rest)
      | none => (none, rest)
    match rest with
    | '\x7d' :: rest => some (min, max, rest)
    | _ => none
  | _ => none

-- A quantifier at the start of the text: its counts and what follows.
def readQuantifier? : List Char → Option (Nat × Option Nat × List Char)
  | '?' :: rest => some (0, some 1, rest)
  | '*' :: rest => some (0, none, rest)
  | '+' :: rest => some (1, none, rest)
  | '\x7b' :: rest => readBraces? rest
  | _ => none

-- The character with the code point that some hexadecimal digits name.
def hexChar (digits : List Char) : Parsing Char :=
  match Text.hexValues? digits with
  | some code => if code.isValidChar then .ok (Char.ofNat code) else .error .notACharacter
  | none => .error .badHexEscape

-- A fixed number of hexadecimal digits, or one to eight in braces.
def readHex (count : Nat) (cs : List Char) : Parsing (Char × List Char) :=
  if count ≤ cs.length && (cs.take count).all Text.isHexDigit then do
    return (← hexChar (cs.take count), cs.drop count)
  else
    match cs with
    | '\x7b' :: rest =>
      let digits := rest.takeWhile Text.isHexDigit
      if digits.isEmpty || 8 < digits.length then .error .badHexEscape
      else
        match rest.dropWhile Text.isHexDigit with
        | '\x7d' :: rest => do return (← hexChar digits, rest)
        | _ => .error .badHexEscape
    | _ => .error .badHexEscape

-- The name after `\p`: one character, or several in braces.
def readPropertyName : List Char → Parsing (List Char × List Char)
  | [] => .error .unknownProperty
  | '\x7b' :: rest =>
    match rest.dropWhile (· != '\x7d') with
    | _ :: after => .ok (rest.takeWhile (· != '\x7d'), after)
    | [] => .error .unknownProperty
  | c :: rest => .ok ([c], rest)

def readProperty (ignoreCase negated : Bool) (cs : List Char) : Parsing (CharSet × List Char) := do
  let (name, rest) ← readPropertyName cs
  match Property.ofName? name with
  | some s => return ((s.withCase ignoreCase).negatedIf negated, rest)
  | none => .error .unknownProperty

def hexDigits : CharSet := .union (.range '0' '9') (.union (.range 'A' 'F') (.range 'a' 'f'))

-- The set of a shorthand class of the dialect.
def shorthand? : Char → Option CharSet
  | 'd' => some (.property .digit)
  | 'D' => some (.complement (.property .digit))
  | 's' => some (.property .blank)
  | 'S' => some (.complement (.property .blank))
  | 'w' => some (.property .word)
  | 'W' => some (.complement (.property .word))
  | 'h' => some hexDigits
  | 'H' => some (.complement hexDigits)
  | _ => none

-- The character that a letter names after a backslash.
def control? : Char → Option Char
  | 'n' => some '\n'
  | 'r' => some '\r'
  | 't' => some '\t'
  | 'f' => some '\x0c'
  | 'v' => some '\x0b'
  | 'a' => some '\x07'
  | 'e' => some '\x1b'
  | _ => none

-- An escape that means one character or a set of them.
inductive Escape where
  | char (c : Char)
  | set (s : CharSet)

-- Such an escape, after the backslash and its first character.
def readEscape (ignoreCase : Bool) (c : Char) (rest : List Char) : Parsing (Escape × List Char) :=
  match shorthand? c, control? c with
  | some s, _ => .ok (.set s, rest)
  | none, some d => .ok (.char d, rest)
  | none, none =>
    match c with
    | 'x' => do
      let (d, rest) ← readHex 2 rest
      return (.char d, rest)
    | 'u' => do
      let (d, rest) ← readHex 4 rest
      return (.char d, rest)
    | 'U' => do
      let (d, rest) ← readHex 8 rest
      return (.char d, rest)
    | 'p' => do
      let (s, rest) ← readProperty ignoreCase false rest
      return (.set s, rest)
    | 'P' => do
      let (s, rest) ← readProperty ignoreCase true rest
      return (.set s, rest)
    | c => if c.isAlpha then .error .unknownEscape else .ok (.char c, rest)

-- Characters of a group name.
def isNameChar (c : Char) : Bool := Text.isAlphanumeric c || c == '_'

-- A name between angle brackets.
def readName (cs : List Char) : Parsing (String × List Char) :=
  match cs with
  | '<' :: rest =>
    let name := rest.takeWhile isNameChar
    match rest.dropWhile isNameChar with
    | '>' :: after => if name.isEmpty then .error .badGroupName else .ok (String.ofList name, after)
    | _ => .error .badGroupName
  | _ => .error .badGroupName

section Classes

-- The tokens of an escape in a class.
def classEscape (ignoreCase : Bool) (cs : List Char) :
    Parsing (List Class.Token × List Char) :=
  match cs with
  | [] => .error .trailingBackslash
  | 'h' :: rest => .ok ("[0-9A-Fa-f]".toList.map .raw, rest)
  | 'H' :: rest => .ok ("[^0-9A-Fa-f]".toList.map .raw, rest)
  | c :: rest =>
    if c.isDigit then .error .badClassMember
    else if c == 'A' || c == 'z' || c == 'k' then .ok ([.literal c], rest)
    else do
      match ← readEscape ignoreCase c rest with
      | (.char d, rest) => return ([.literal d], rest)
      | (.set s, rest) => return ([.set s], rest)

-- The tokens of a class up to the bracket that closes it, at a nesting depth. What would be a
-- comment outside a class stands for its characters.
def classTokens (ignoreCase : Bool) :
    Nat → Nat → List Char → Parsing (List Class.Token × List Char)
  | 0, _, _ => .error .unclosedClass
  | _ + 1, _, [] => .error .unclosedClass
  | fuel + 1, depth, '\\' :: rest => do
    let (tokens, rest) ← classEscape ignoreCase rest
    let (more, rest) ← classTokens ignoreCase fuel depth rest
    return (tokens ++ more, rest)
  | fuel + 1, depth, '[' :: rest => do
    let (more, rest) ← classTokens ignoreCase fuel (depth + 1) rest
    return (.raw '[' :: more, rest)
  | fuel + 1, depth, ']' :: rest =>
    if depth = 0 then return ([.raw ']'], rest)
    else do
      let (more, rest) ← classTokens ignoreCase fuel (depth - 1) rest
      return (.raw ']' :: more, rest)
  | fuel + 1, depth, c :: rest => do
    let (more, rest) ← classTokens ignoreCase fuel depth rest
    return (.raw c :: more, rest)

-- A caret, and a closing bracket that is a member since it is the first one.
def classOpening : List Char → List Class.Token × List Char
  | '^' :: ']' :: rest => ([.raw '^', .raw ']'], rest)
  | '^' :: rest => ([.raw '^'], rest)
  | ']' :: rest => ([.raw ']'], rest)
  | rest => ([], rest)

def isPlain (c : Char) : Bool := !".^$*+?()[|\\".toList.contains c && c != '\x7b'

-- What stands behind a class that ends before its last bracket, because an inner bracket was taken
-- as the end of a range.
def strayItem (ignoreCase : Bool) : Class.Token → Parsing Syntax
  | .raw c =>
    if isPlain c then .ok (.char ((CharSet.single c).withCase ignoreCase))
    else .error .strayTextAfterClass
  | .literal c => .ok (.char ((CharSet.single c).withCase ignoreCase))
  | .set s => .ok (.char s)

-- A class, after its opening bracket.
def readClass (ignoreCase : Bool) (cs : List Char) : Parsing (Syntax × List Char) := do
  let (opening, rest) := classOpening cs
  let (tokens, rest) ← classTokens ignoreCase (rest.length + 1) 0 rest
  let (s, stray) ← Class.read ignoreCase (opening ++ tokens)
  match stray with
  | [] => return (.char s, rest)
  | stray => return (.scope (.ofItems (.char s :: (← stray.mapM (strayItem ignoreCase)))), rest)

end Classes

section Groups

-- The modes named between `(?` and `)` or `:`, and which of the two ends them.
def readModes (modes : Modes) (off fresh : Bool) :
    List Char → Parsing (Modes × Bool × List Char)
  | [] => .error .unclosedGroup
  | ')' :: rest => if fresh then .error .unknownFlag else .ok (modes, false, rest)
  | ':' :: rest => if fresh && off then .error .unknownFlag else .ok (modes, true, rest)
  | '-' :: rest => if off then .error .unknownFlag else readModes modes true true rest
  | 'i' :: rest => readModes { modes with ignoreCase := !off } off false rest
  | 'm' :: rest => readModes { modes with multiLine := !off } off false rest
  | 's' :: rest => readModes { modes with dotAll := !off } off false rest
  | 'U' :: rest => readModes { modes with swapGreed := !off } off false rest
  | 'u' :: rest => if off then .error .unknownFlag else readModes modes off false rest
  | _ :: _ => .error .unknownFlag

-- A group, after its opening parenthesis.
def readGroup (state : State) (cs : List Char) : Parsing (State × List Char) := do
  state.checkDepth
  match ← skipAllComments cs with
  | '?' :: '=' :: rest => return (state.openGroup (.look false false) none, rest)
  | '?' :: '!' :: rest => return (state.openGroup (.look false true) none, rest)
  | '?' :: '<' :: '=' :: rest => return (state.openGroup (.look true false) none, rest)
  | '?' :: '<' :: '!' :: rest => return (state.openGroup (.look true true) none, rest)
  | '?' :: '<' :: rest =>
    let (name, rest) ← readName ('<' :: rest)
    return (state.openCapture (some name), rest)
  | '?' :: 'P' :: '<' :: rest =>
    let (name, rest) ← readName ('<' :: rest)
    return (state.openCapture (some name), rest)
  | '?' :: '>' :: rest => return (state.openGroup .atomic none, rest)
  | '?' :: rest =>
    let (modes, grouped, rest) ← readModes state.modes false true rest
    if grouped then
      return ({ state.openGroup .scope (some state.modes) with modes }, rest)
    else return ({ state.push .empty with modes }, rest)
  | rest => return (state.openCapture none, rest)

end Groups

-- A reference by number. Group 0 is the whole match.
def readNumbered (state : State) (cs : List Char) : Parsing (State × List Char) :=
  match decimal? (cs.takeWhile Char.isDigit) with
  | some index =>
    if index < state.maxReference then do
      return (← { state with numbered := true }.pushReference index, cs.dropWhile Char.isDigit)
    else .error .badReference
  | none => .error .badReference

-- A reference by name, or by a number that is not the name of a group.
def readNamed (state : State) (cs : List Char) : Parsing (State × List Char) := do
  let (name, rest) ← readName cs
  match state.names.lookup name with
  | some index => return (← state.pushReference index, rest)
  | none =>
    match decimal? name.toList with
    | some index =>
      if name.toList.all Char.isDigit then return (← state.pushReference index, rest)
      else .error .unknownGroup
    | none => .error .unknownGroup

-- An escape outside a class, after the backslash.
def readAtomEscape (state : State) (cs : List Char) : Parsing (State × List Char) :=
  match cs with
  | [] => .error .trailingBackslash
  | 'k' :: rest => readNamed state rest
  | 'A' :: rest => .ok (state.push (.assertion .textStart), rest)
  | 'z' :: rest => .ok (state.push (.assertion .textEnd), rest)
  | '<' :: rest => .ok (state.push (.assertion .wordStart), rest)
  | '>' :: rest => .ok (state.push (.assertion .wordEnd), rest)
  -- The match is reported from here, which does not matter to whether there is one.
  | 'K' :: rest => .ok (state.push (.atomic .empty), rest)
  -- Where the match before ended, and there is none.
  | 'G' :: rest => .ok (state.push (.atomic (.assertion .textStart)), rest)
  | c :: rest =>
    if c.isDigit then readNumbered state cs
    else do
      match ← readEscape state.modes.ignoreCase c rest with
      | (.char d, rest) => return (state.pushChar d, rest)
      | (.set s, rest) => return (state.push (.char s), rest)

-- The start of a line or of the text, by mode, and the end.
def caret (modes : Modes) : Syntax :=
  .assertion (if modes.multiLine then .lineStart else .textStart)

def dollar (modes : Modes) : Syntax := .assertion (if modes.multiLine then .lineEnd else .textEnd)

-- Any character, by mode also a line feed.
def dot (modes : Modes) : Syntax :=
  .char (if modes.dotAll then .complement .empty else .complement .newline)

-- An atom, or the end of a branch or group.
def readAtom (state : State) (c : Char) (rest : List Char) : Parsing (State × List Char) :=
  match c with
  | '.' => .ok (state.push (dot state.modes), rest)
  | '^' => .ok (state.push (caret state.modes), rest)
  | '$' => .ok (state.push (dollar state.modes), rest)
  | '(' => readGroup state rest
  | ')' => do return (← state.closeGroup, rest)
  | '|' => .ok (state.endBranch, rest)
  | '\\' => readAtomEscape state rest
  | '[' => do
    let (a, rest) ← readClass state.modes.ignoreCase rest
    return (state.push a, rest)
  | '?' | '*' | '+' => .error .nothingToRepeat
  | c => .ok (state.pushChar c, rest)

-- After a quantifier: whether it is lazy, and whether it keeps what it took.
def readQuantifierSuffix (cs : List Char) : Parsing (Bool × Bool × List Char) := do
  let (lazy, rest) :=
    match ← skipAllComments cs with
    | '?' :: rest => (true, rest)
    | rest => (false, rest)
  match rest with
  | '+' :: rest => return (lazy, true, rest)
  | rest => return (lazy, false, rest)

-- One step: a quantifier for the pending atom, or the next atom.
def step (state : State) (c : Char) (rest : List Char) : Parsing (State × List Char) :=
  match state.pending, readQuantifier? (c :: rest) with
  | some a, some (min, max, rest) => do
    let (lazy, possessive, rest) ← readQuantifierSuffix rest
    return (← state.repeatPending a min max lazy possessive, rest)
  | _, _ => readAtom state c rest

-- All steps; `fuel` is the number of characters at least.
def run : Nat → State → List Char → Parsing State
  | 0, state, _ => .ok state
  | fuel + 1, state, cs => do
    match ← skipAllComments cs with
    | [] => return state
    | c :: rest =>
      let (state, rest) ← step state c rest
      run fuel state rest

-- The tree of a pattern.
def parse (pattern : List Char) : Parsing Syntax := do
  let state ← run (pattern.length + 1) (.start pattern) pattern
  if !state.outer.isEmpty then .error .unclosedGroup
  else return (← state.contents).2

end Parser

end Vetting.Pattern
