import Vetting.Settings

namespace Vetting

inductive OutputFormat where
  | text
  | json
  | markdown
deriving DecidableEq, Repr, Inhabited

namespace OutputFormat

def name : OutputFormat → String
  | text => "text"
  | json => "json"
  | markdown => "markdown"

def all : List OutputFormat := [text, json, markdown]

def ofName? (name : String) : Option OutputFormat := all.find? (·.name == name)

end OutputFormat

-- Where an entry and its content type are read from.
structure EntryFiles where
  contentType : String
  entry : String
  locale : Option String := none
deriving DecidableEq, Repr, Inhabited

inductive Command where
  | validate (files : EntryFiles) (format : OutputFormat)
  | rules (contentType : String)
  | replay (files : EntryFiles) (changes : String)
  | schema
deriving DecidableEq, Repr, Inhabited

structure Arguments where
  config : Option String := none
  logLevel : Option String := none
  logFormat : Option LogFormat := none
  logFile : Option String := none
  strictZeroBounds : Bool := false
  command : Command
deriving DecidableEq, Repr, Inhabited

namespace Arguments

inductive OptionKind where
  -- Stands alone.
  | flag
  | text
  -- A text that is not empty.
  | path
  | choice (names : List String)
deriving DecidableEq, Repr

def OptionKind.accepts : OptionKind → String → Bool
  | flag, _ => false
  | text, _ => true
  | path, value => !value.isEmpty
  | choice names, value => names.contains value

abbrev OptionSpec := String × OptionKind

-- The values of the options given, by name; that of a flag is empty.
abbrev Given := List (String × String)

def commonOptions : List OptionSpec :=
  [("config", .path), ("log-level", .text), ("log-format", .choice ["text", "json"]),
   ("log-file", .path), ("strict-zero-bounds", .flag)]

def entryOptions : List OptionSpec :=
  [("content-type", .path), ("entry", .path), ("locale", .text)]

-- The options of a command apart from the common ones; none if there is no such command.
def optionsOf? : String → Option (List OptionSpec)
  | "validate" => some (entryOptions ++ [("format", .choice (OutputFormat.all.map (·.name)))])
  | "rules" => some [("content-type", .path)]
  | "replay" => some (entryOptions ++ [("changes", .path)])
  | "schema" => some []
  | _ => none

-- The name of an option and the value attached to it with an equals sign.
def splitOption (cs : List Char) : String × Option String :=
  let name := cs.takeWhile (· != '=')
  (String.ofList name,
    match cs.drop name.length with
    | [] => none
    | _ :: value => some (String.ofList value))

-- Whether a word can only be an option. A lone dash is a value.
def looksLikeOption (word : String) : Bool :=
  match word.toList with
  | '-' :: _ :: _ => true
  | _ => false

-- Adds an option that was not given before.
def give? (given : Given) (name value : String) : Option Given :=
  if (given.lookup name).isSome then none else some (given ++ [(name, value)])

-- Reads options up to the first word that is none, and yields the words from there. An option may
-- be waiting for its value.
def readOptions (specs : List OptionSpec) (given : Given) (waiting : Option OptionSpec) :
    List String → Option (Given × List String)
  | [] => if waiting.isSome then none else some (given, [])
  | word :: rest =>
    match waiting, word.toList with
    | some (name, kind), _ => do
      if !kind.accepts word || looksLikeOption word then none
      readOptions specs (← give? given name word) none rest
    | none, ['-', '-'] => if rest.isEmpty then some (given, []) else none
    | none, '-' :: '-' :: cs => do
      let (name, attached) := splitOption cs
      let kind ← specs.lookup name
      match kind, attached with
      | .flag, none => readOptions specs (← give? given name "") none rest
      | .flag, some _ => none
      | kind, none => readOptions specs given (some (name, kind)) rest
      | kind, some value => do
        if !kind.accepts value then none
        readOptions specs (← give? given name value) none rest
    | none, '-' :: _ :: _ => none
    | none, _ => some (given, word :: rest)

private def entryFiles? (given : Given) : Option EntryFiles := do
  return {
    contentType := ← given.lookup "content-type"
    entry := ← given.lookup "entry"
    locale := given.lookup "locale" }

private def command? (name : String) (given : Given) : Option Command :=
  match name with
  | "validate" => do
    let format := ((given.lookup "format").bind OutputFormat.ofName?).getD .text
    return .validate (← entryFiles? given) format
  | "rules" => do return .rules (← given.lookup "content-type")
  | "replay" => do return .replay (← entryFiles? given) (← given.lookup "changes")
  | "schema" => some .schema
  | _ => none

-- Reads a command line; none if it is not understood. Common options may stand before or behind the
-- command; behind it they take precedence.
def parse? (words : List String) : Option Arguments := do
  let (before, words) ← readOptions commonOptions [] none words
  match words with
  | [] => none
  | name :: words => do
    let (behind, words) ← readOptions (commonOptions ++ (← optionsOf? name)) [] none words
    if !words.isEmpty then none
    let given := behind ++ before
    return {
      config := given.lookup "config"
      logLevel := given.lookup "log-level"
      logFormat := (given.lookup "log-format").bind LogFormat.ofName?
      logFile := given.lookup "log-file"
      strictZeroBounds := (given.lookup "strict-zero-bounds").isSome
      command := ← command? name given }

-- The files that a command line names for reading.
def inputs (arguments : Arguments) : List String :=
  arguments.config.toList ++
    match arguments.command with
    | .validate files _ => [files.contentType, files.entry]
    | .rules contentType => [contentType]
    | .replay files changes => [changes, files.contentType, files.entry]
    | .schema => []

end Arguments

end Vetting
