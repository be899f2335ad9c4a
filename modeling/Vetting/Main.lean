import Vetting.Command.Run

namespace Vetting

def usage : String :=
  "usage: vetting [--config PATH] [--log-level FILTER] [--log-format text|json]" ++
    " [--log-file PATH]\n" ++
  "         [--strict-zero-bounds] COMMAND\n" ++
  "  validate --content-type PATH --entry PATH [--locale LOCALE] [--format text|json|markdown]\n" ++
  "  rules --content-type PATH\n" ++
  "  replay --content-type PATH --entry PATH --changes PATH [--locale LOCALE]\n" ++
  "  schema"

-- The text of a file, if it can be read.
def readFile? (path : String) : IO (Option String) :=
  try return some (← IO.FS.readFile path)
  catch _ => return none

-- Whether a file can be opened to add to it.
def opensForAppending (path : String) : IO Bool :=
  try
    let _ ← IO.FS.Handle.mk path .append
    return true
  catch _ => return false

def runArguments (arguments : Arguments) : IO UInt32 := do
  let files ← arguments.inputs.mapM fun path => return (path, ← readFile? path)
  let read (path : String) : Option String := (files.lookup path).bind id
  let opened ←
    match arguments.settingsForLogging read, arguments.logFile with
    | .ok _, some path => opensForAppending path
    | _, _ => pure true
  let environment : Environment := { read, canAppend := fun _ => opened }
  let outcome := arguments.run environment
  outcome.stdout.forM (IO.println ·)
  outcome.stderr.forM (IO.eprintln ·)
  if let .error error := outcome.result then
    IO.eprintln s!"Error: {error.messageWith environment.describe}"
  return outcome.exitCode.toUInt32

end Vetting

def main (words : List String) : IO UInt32 :=
  match Vetting.Arguments.parse? words with
  | some arguments => Vetting.runArguments arguments
  | none => do
    IO.eprintln Vetting.usage
    return 2
