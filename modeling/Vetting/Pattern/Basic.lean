import Vetting.Pattern.Dialect
import Vetting.Pattern.Machine
import Vetting.Pattern.Parser

namespace Vetting

-- A pattern as it is declared.
structure PatternSource where
  pattern : String
  flags : Option String
deriving DecidableEq, Repr, Inhabited

namespace PatternSource

-- Absent flags are no flags.
def flagText (source : PatternSource) : String := source.flags.getD ""

-- The pattern between slashes, with its flags behind.
def text (source : PatternSource) : String := s!"/{source.pattern}/{source.flagText}"

end PatternSource

namespace Pattern

-- Which engine a pattern needs.
inductive Program where
  | linear (tree : Syntax)
  | backtracking (plan : Plan Syntax)
deriving Inhabited

-- Why a source is no pattern.
inductive CompileError where
  | flags (error : FlagError)
  | pattern (fault : SyntaxFault)
deriving DecidableEq, Repr, Inhabited

-- Why a search has no answer.
inductive MatchError where
  | tooManyBacktracks
deriving DecidableEq, Repr, Inhabited

def MatchError.message : MatchError → String
  | tooManyBacktracks => "Error executing regex: Max limit for backtracking count exceeded"

-- The program of a tree. Counts are checked here for what the linear engine runs.
def Program.ofSyntax (tree : Syntax) : Except SyntaxFault Program :=
  let referenced := tree.references
  if tree.needsBacktracking referenced then
    .backtracking <$> tree.plan referenced (.whole true)
  else if tree.hasSoundCounts then .ok (.linear tree)
  else .error .badCount

-- The program of a text in the dialect.
def Program.parse (dialect : String) : Except SyntaxFault Program := do
  Program.ofSyntax (← Parser.parse dialect.toList)

-- Whether a match begins anywhere in the text.
def Program.search (program : Program) (text : String) : Except MatchError Bool :=
  match program with
  | linear tree =>
    let cs := text.toList
    .ok ((Moves.ofSyntax cs tree).anywhere cs.length)
  | backtracking plan =>
    let cs := text.toList
    match Machine.search cs.toArray (plan.map (Moves.ofSyntax cs)) with
    | .found _ _ => .ok true
    | .failed _ => .ok false
    | .exhausted => .error .tooManyBacktracks

end Pattern

-- A compiled pattern, with the source that it is shown as.
structure Pattern where
  source : PatternSource
  program : Pattern.Program
deriving Inhabited

namespace Pattern

def compile (source : PatternSource) : Except CompileError Pattern :=
  match Flags.parse source.flagText with
  | .error error => .error (.flags error)
  | .ok flags =>
    match Program.parse (Dialect.spell flags source.pattern) with
    | .error fault => .error (.pattern fault)
    | .ok program => .ok ⟨source, program⟩

-- Whether the pattern matches anywhere in a text.
def isMatch (pattern : Pattern) (text : String) : Except MatchError Bool :=
  pattern.program.search text

end Pattern

end Vetting
