import Vetting.Sidebar.Basic

namespace Vetting

-- A sidebar under its name, with the number it was given when it was opened.
structure Panel where
  name : String
  number : Nat
  sidebar : Sidebar
deriving Inhabited

-- Sidebars on one entry. A mounted sidebar watches every field, and each change of a value makes
-- the sidebars that watch its field run a pass. What a dropped sidebar watches stays registered.
structure Desk where
  entry : Entry
  panels : List Panel := []
  -- How many sidebars were opened so far.
  opened : Nat := 0
  -- The watched fields, each with the number of the sidebar that watches it.
  watches : List (String × Nat) := []
deriving Inhabited

namespace Desk

def panel? (desk : Desk) (name : String) : Option Panel :=
  desk.panels.find? (·.name == name)

def sidebar? (desk : Desk) (name : String) : Option Sidebar := (desk.panel? name).map (·.sidebar)

-- The same desk without the sidebar of a name.
def drop (desk : Desk) (name : String) : Desk :=
  { desk with panels := desk.panels.filter (·.name != name) }

-- Opens a sidebar in place of one with the same name. The content type must be sound.
def openSidebar (desk : Desk) (name : String) (options : Options) :
    Except EvaluationError Desk := do
  desk.entry.contentType.check.mapError .content
  let panel : Panel := { name, number := desk.opened, sidebar := { options } }
  return { desk with panels := (desk.drop name).panels ++ [panel], opened := desk.opened + 1 }

-- Changes the sidebar with a number.
def update (desk : Desk) (number : Nat) (change : Sidebar → Sidebar) : Desk :=
  { desk with
    panels := desk.panels.map fun panel =>
      if panel.number == number then { panel with sidebar := change panel.sidebar } else panel }

-- Runs a pass of the sidebar with a number, if there still is one.
def pass (desk : Desk) (number : Nat) : Desk := desk.update number (·.pass desk.entry)

-- Mounts a sidebar; the first time it begins to watch every field.
def mount (desk : Desk) (panel : Panel) : Desk :=
  if panel.sidebar.mounted then desk
  else
    { desk.update panel.number (·.mount desk.entry) with
      watches := desk.watches ++ desk.entry.contentType.fieldIds.map fun id => (id, panel.number) }

-- Sets the value of a field, and runs a pass for every watch on it; none for a field that is not
-- declared.
def set? (desk : Desk) (fieldId : String) (value : Json) : Option Desk :=
  (desk.entry.set? fieldId value).map fun entry =>
    let watching := desk.watches.filter (·.1 == fieldId)
    watching.foldl (fun desk (_, number) => desk.pass number) { desk with entry }

end Desk

end Vetting
