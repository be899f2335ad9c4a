import Vetting.Command.Arguments
import Vetting.Command.LogFilter
import Vetting.Entry.Basic
import Vetting.Sidebar.Replay
import Vetting.Verdict.Markdown

namespace Vetting

inductive CommandError where
  -- A file cannot be read.
  | unreadable (path : String)
  | json (text : String) (error : Json.ReadError)
  | content (error : ContentError)
  | evaluation (error : EvaluationError)
  -- The settings cannot be read, or are none.
  | settings (path : String)
  | declarations (problems : List Problem)
  | noEntry
  | script (error : ScriptError)
  | unknownField (unknown : Replay.UnknownField)
  | badFilter (filter : String)
  -- The log file cannot be written.
  | unwritable (path : String)
deriving Inhabited

namespace CommandError

-- The message of an error, with the words of `describe` for a pattern that is refused.
def messageWith (describe : Pattern.SyntaxFault → String) : CommandError → String
  | unreadable path => s!"io error: cannot read {path}"
  | json text error => s!"json error: {error.message text.toList}"
  | content error => s!"core error: {error.message}"
  | evaluation error => s!"evaluation error: {error.messageWith describe}"
  | settings path => s!"settings error: no settings in {path}"
  | declarations problems =>
    s!"invalid validations: {(Problem.reportWith describe problems).summary}"
  | noEntry => "invalid input: entry must be a JSON object"
  | script error => s!"invalid input: {error.message}"
  | unknownField unknown => s!"invalid input: {unknown.message}"
  | badFilter filter => s!"logging error: {filter} is no log filter"
  | unwritable path => s!"logging error: cannot write {path}"

end CommandError

-- What a command runs in.
structure Environment where
  -- The text of a file, if it can be read.
  read : String → Option String
  -- Whether something can be added to a file.
  canAppend : String → Bool
  -- The words in which a pattern is refused.
  describe : Pattern.SyntaxFault → String := Pattern.SyntaxFault.message

-- What a command wrote, line by line, and how it ended: whether all is valid, or an error.
structure Outcome where
  stdout : List String := []
  stderr : List String := []
  result : Except CommandError Bool

namespace Outcome

def ofError (error : CommandError) : Outcome := { result := .error error }

-- The outcome of a command that may end before it has written anything.
def ofExcept : Except CommandError Outcome → Outcome
  | .ok outcome => outcome
  | .error error => ofError error

-- Zero if all is valid, two if not, and one after an error.
def exitCode (outcome : Outcome) : Nat :=
  match outcome.result with
  | .ok true => 0
  | .ok false => 2
  | .error _ => 1

end Outcome

namespace Environment

def text (environment : Environment) (path : String) : Except CommandError String :=
  match environment.read path with
  | some text => .ok text
  | none => .error (.unreadable path)

def json (environment : Environment) (path : String) : Except CommandError Json := do
  let text ← environment.text path
  (Json.parse text).mapError (.json text)

def contentType (environment : Environment) (path : String) :
    Except CommandError ContentType := do
  (ContentType.parse (← environment.json path)).mapError .content

-- The entry that two files describe.
def entry (environment : Environment) (files : EntryFiles) : Except CommandError Entry := do
  let contentType ← environment.contentType files.contentType
  match EntryDocument.values? contentType files.locale (← environment.json files.entry) with
  | some values => return .ofValues contentType values
  | none => .error .noEntry

end Environment

namespace Command

-- The verdict on an entry, with the warnings about its declarations.
def verdictOn (options : Options) (entry : Entry) :
    Except CommandError (Verdict × List Problem) := do
  let (checklist, warnings) ←
    (Checklist.compile options entry.contentType.fields).mapError .declarations
  let verdict ← (checklist.evaluate entry).mapError .evaluation
  return (verdict, warnings)

-- The document that tells of a verdict.
def verdictDocument (verdict : Verdict) (warnings : List Problem) : Json :=
  let status := Status.ofVerdict verdict
  .object [("ignored", .strings (warnings.map (·.path))), ("message", .string status.message),
    ("status", .string status.name), ("verdict", verdict.toJson)]

def runValidate (environment : Environment) (options : Options) (files : EntryFiles)
    (format : OutputFormat) : Except CommandError Outcome := do
  let entry ← environment.entry files
  let (verdict, warnings) ← verdictOn options entry
  let result := .ok verdict.valid
  match format with
  | .text =>
    return {
      stdout := [(Status.ofVerdict verdict).message]
      stderr := verdict.failedFields.map fun field => s!"invalid field: {field.fieldId}"
      result }
  | .json => return { stdout := [(verdictDocument verdict warnings).pretty 0], result }
  | .markdown =>
    return {
      stdout := [verdict.markdown entry.contentType
        (warnings.map (Problem.issueWith environment.describe))]
      result }

-- The lines about one field: its rules and what is ignored on it.
def fieldLines (field : Field) : List String :=
  let required := if field.required then ", required" else ""
  let rules := field.rules.map fun rule => s!"  - {rule.text}"
  let ignored := (field.declarationProblems.filter (!·.isError)).map fun problem =>
    s!"  ~ ignored {problem.path}"
  s!"{field.id} ({field.type.name}{required})" ::
    (if rules.isEmpty then ["  (no checks)"] else rules) ++ ignored

-- The lines about an error in a declaration.
def issueLines (issue : Issue) : List String :=
  s!"error {issue.code} {issue.path}: {issue.message}" ::
    (issue.hint.map fun hint => s!"  hint: {hint}").toList

-- The problems of the fields that cannot be checked.
def ruleProblems (options : Options) (fields : List Field) : List Problem :=
  fields.flatMap fun field =>
    match field.compile options with
    | .ok _ => []
    | .error problems => problems

def runRules (environment : Environment) (options : Options) (contentType : String) :
    Except CommandError Outcome := do
  let contentType ← environment.contentType contentType
  let problems := ruleProblems options contentType.fields
  return {
    stdout := contentType.fields.flatMap fieldLines
    stderr := (Problem.reportWith environment.describe problems).errors.flatMap issueLines
    result := if problems.any (·.isError) then .error (.declarations problems) else .ok true }

def runReplay (environment : Environment) (options : Options) (files : EntryFiles)
    (changes : String) : Except CommandError Outcome := do
  let changes ← (Change.ofScript (← environment.text changes)).mapError .script
  let entry ← environment.entry files
  let replay ← (Replay.run options entry changes).mapError .evaluation
  return {
    stdout := replay.notes.map (·.text)
    result :=
      match replay.stopped with
      | some unknown => .error (.unknownField unknown)
      | none => .ok replay.status.isValid }

def schemaOutcome : Outcome :=
  { stdout := [ContentType.schemaDocument.pretty 0], result := .ok true }

def run (environment : Environment) (options : Options) : Command → Outcome
  | .validate files format => .ofExcept (runValidate environment options files format)
  | .rules contentType => .ofExcept (runRules environment options contentType)
  | .replay files changes => .ofExcept (runReplay environment options files changes)
  | .schema => schemaOutcome

end Command

namespace Arguments

-- The settings from a file, overridden by the command line.
def settings (arguments : Arguments) (read : String → Option String) :
    Except CommandError Settings := do
  let settings ←
    match arguments.config with
    | none => .ok {}
    | some path =>
      match (read path).bind Settings.parse with
      | some settings => .ok settings
      | none => .error (.settings path)
  let zeroBoundIsAbsent := settings.options.zeroBoundIsAbsent && !arguments.strictZeroBounds
  return {
    options := { settings.options with zeroBoundIsAbsent }
    logLevel := arguments.logLevel.getD settings.logLevel
    logFormat := arguments.logFormat.getD settings.logFormat }

-- The settings, if logging can begin with them.
def settingsForLogging (arguments : Arguments) (read : String → Option String) :
    Except CommandError Settings := do
  let settings ← arguments.settings read
  if LogFilter.isValid settings.logLevel then return settings
  else .error (.badFilter settings.logLevel)

-- Runs a command line: settings are read first, then logging is prepared, then the command runs.
def run (environment : Environment) (arguments : Arguments) : Outcome :=
  match arguments.settingsForLogging environment.read with
  | .error error => .ofError error
  | .ok settings =>
    match arguments.logFile.filter (!environment.canAppend ·) with
    | some path => .ofError (.unwritable path)
    | none => arguments.command.run environment settings.options

end Arguments

end Vetting
