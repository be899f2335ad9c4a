import Vetting.Input.Change
import Vetting.Sidebar.Desk

namespace Vetting

namespace Replay

-- What is noted: the number of a change from one on, with its field, or nothing for the first pass.
structure Note where
  change : Option (Nat × String)
  status : Status
deriving DecidableEq, Repr, Inhabited

def Note.text (note : Note) : String :=
  match note.change with
  | none => s!"mount\t{note.status.note}\t{note.status.message}"
  | some (number, fieldId) =>
    s!"{number}\t{fieldId}\t{note.status.note}\t{note.status.message}"

-- The change of a field that is not declared, by its number among the changes.
structure UnknownField where
  number : Nat
  fieldId : String
deriving DecidableEq, Repr, Inhabited

def UnknownField.message (unknown : UnknownField) : String :=
  s!"change line {unknown.number}: unknown field '{unknown.fieldId}'"

end Replay

-- The notes taken, the sidebars at the end, and what stopped the replay early.
structure Replay where
  notes : List Replay.Note
  desk : Desk
  stopped : Option Replay.UnknownField := none
deriving Inhabited

namespace Replay

-- The name under which the sidebar of a replay is opened.
def sidebarName : String := "replay"

def statusOf (desk : Desk) : Status := ((desk.sidebar? sidebarName).map (·.status)).getD .valid

-- Makes the remaining changes, the first of which has a number.
def follow (number : Nat) (desk : Desk) : List Change → Replay
  | [] => { notes := [], desk }
  | change :: rest =>
    match desk.set? change.field change.value with
    | none => { notes := [], desk, stopped := some ⟨number, change.field⟩ }
    | some desk =>
      let later := follow (number + 1) desk rest
      { later with notes := ⟨some (number, change.field), statusOf desk⟩ :: later.notes }

-- Mounts a sidebar on an entry and makes all changes.
def run (options : Options) (entry : Entry) (changes : List Change) :
    Except EvaluationError Replay := do
  let opened ← Desk.openSidebar { entry } sidebarName options
  let desk := (opened.panel? sidebarName).elim opened opened.mount
  let later := follow 1 desk changes
  return { later with notes := ⟨none, statusOf desk⟩ :: later.notes }

-- The status at the end.
def status (replay : Replay) : Status := statusOf replay.desk

end Replay

end Vetting
