import Vetting.Verdict.Evaluation
import Vetting.Verdict.Status

namespace Vetting

structure Sidebar where
  options : Options
  -- What the last pass found; valid before the first one.
  status : Status := .valid
  -- How many passes were run, failed ones included.
  passes : Nat := 0
  -- The verdict of the last pass, if it did not fail.
  verdict : Option Verdict := none
  mounted : Bool := false
deriving Inhabited

namespace Sidebar

-- Evaluates an entry afresh. A failed evaluation shows as invalid.
def pass (sidebar : Sidebar) (entry : Entry) : Sidebar :=
  match entry.evaluate sidebar.options with
  | .ok verdict =>
    { sidebar with
      status := .ofVerdict verdict, passes := sidebar.passes + 1, verdict := some verdict }
  | .error _ =>
    { sidebar with status := .invalid, passes := sidebar.passes + 1, verdict := none }

-- Runs the first pass; a sidebar that is mounted stays as it is.
def mount (sidebar : Sidebar) (entry : Entry) : Sidebar :=
  if sidebar.mounted then sidebar else { sidebar.pass entry with mounted := true }

end Sidebar

end Vetting
