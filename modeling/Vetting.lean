import Vetting.Command.Arguments
import Vetting.Command.LogFilter
import Vetting.Command.Run
import Vetting.Content.Basic
import Vetting.Content.Check
import Vetting.Content.Document
import Vetting.Content.FieldType
import Vetting.Content.Schema
import Vetting.Entry.Basic
import Vetting.Entry.Listener
import Vetting.Input.Change
import Vetting.Issue
import Vetting.Json.Basic
import Vetting.Json.Printer
import Vetting.Json.Reader
import Vetting.Json.Record
import Vetting.Json.Shape
import Vetting.Json.Skip
import Vetting.Main
import Vetting.Number.Decimal
import Vetting.Number.Double
import Vetting.Number.Layout
import Vetting.Number.Shortest
import Vetting.Pattern.Basic
import Vetting.Pattern.CharSet
import Vetting.Pattern.Class
import Vetting.Pattern.Dialect
import Vetting.Pattern.Flags
import Vetting.Pattern.Machine
import Vetting.Pattern.Moves
import Vetting.Pattern.Parser
import Vetting.Pattern.Plan
import Vetting.Pattern.Property
import Vetting.Pattern.Syntax
import Vetting.Rule.Basic
import Vetting.Rule.Bounds
import Vetting.Rule.Check
import Vetting.Rule.Checklist
import Vetting.Rule.Declared
import Vetting.Rule.Problem
import Vetting.Schema.Basic
import Vetting.Schema.Check
import Vetting.Schema.Reader
import Vetting.Settings
import Vetting.Sidebar.Basic
import Vetting.Sidebar.Desk
import Vetting.Sidebar.Replay
import Vetting.Text.Ages
import Vetting.Text.Basic
import Vetting.Text.Categories
import Vetting.Text.Folding
import Vetting.Text.Letters
import Vetting.Text.Printable
import Vetting.Text.Properties
import Vetting.Text.Scripts
import Vetting.Toml.Basic
import Vetting.Toml.Reader
import Vetting.Toml.Scalar
import Vetting.Toml.Text
import Vetting.Verdict.Basic
import Vetting.Verdict.Evaluation
import Vetting.Verdict.Markdown
import Vetting.Verdict.Status
import Vetting.Proofs.Content.Document
import Vetting.Proofs.Content.RoundTrip
import Vetting.Proofs.Content.Schema
import Vetting.Proofs.Entry.Values
import Vetting.Proofs.Json.Members
import Vetting.Proofs.Json.Record
import Vetting.Proofs.Outcome
import Vetting.Proofs.Pattern.Backtracking
import Vetting.Proofs.Pattern.ClassBody
import Vetting.Proofs.Pattern.ClassDashes
import Vetting.Proofs.Pattern.ClassMembers
import Vetting.Proofs.Pattern.ClassOpening
import Vetting.Proofs.Pattern.ClassReading
import Vetting.Proofs.Pattern.ClassSpelling
import Vetting.Proofs.Pattern.ClassTokens
import Vetting.Proofs.Pattern.ClassTranslation
import Vetting.Proofs.Pattern.EcmaScript
import Vetting.Proofs.Pattern.Ends
import Vetting.Proofs.Pattern.Masks
import Vetting.Proofs.Pattern.Parsing
import Vetting.Proofs.Pattern.Reach
import Vetting.Proofs.Pattern.Regex
import Vetting.Proofs.Pattern.Search
import Vetting.Proofs.Pattern.Shorthands
import Vetting.Proofs.Pattern.Spans
import Vetting.Proofs.Pattern.Translation
import Vetting.Proofs.Pattern.Trees
import Vetting.Proofs.Rule.Compilation
import Vetting.Proofs.Schema.Admission
import Vetting.Proofs.Sidebar.Freshness
import Vetting.Proofs.Sidebar.Runs
import Vetting.Proofs.Verdict.Evaluation
import Vetting.Proofs.Verdict.Reading
import Vetting.Proofs.Content.Ids
import Vetting.Proofs.Verdict.FailedRules
import Vetting.Proofs.Command.Replay
import Vetting.Proofs.Verdict.Leniency
import Vetting.Proofs.Rule.Diagnosis
import Vetting.Proofs.Sidebar.Bookkeeping
import Vetting.Proofs.Entry.Notification
import Vetting.Proofs.Entry.Chronology
import Vetting.Proofs.Verdict.Presence
import Vetting.Proofs.Verdict.Locality
import Vetting.Proofs.Verdict.Stripping
import Vetting.Proofs.Verdict.Reordering
import Vetting.Proofs.Command.Rules
import Vetting.Proofs.Pattern.Cursor
import Vetting.Proofs.Pattern.Nesting
import Vetting.Proofs.Pattern.Unclosed
import Vetting.Proofs.Rule.Attribution
import Vetting.Proofs.Command.Stopping
import Vetting.Proofs.Pattern.Escapes
import Vetting.Proofs.Pattern.CaseBlind
import Vetting.Proofs.Pattern.CaseParsing
import Vetting.Proofs.Verdict.Faults
import Vetting.Proofs.Rule.Configuration
import Vetting.Proofs.Rule.IntegerRange
import Vetting.Proofs.Pattern.Flags
import Vetting.Proofs.Entry.Seeding
import Vetting.Proofs.Entry.Document
