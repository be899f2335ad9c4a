import Mathlib.Logic.Function.Iterate
import Vetting.Proofs.Entry.Values
import Vetting.Sidebar.Desk

namespace Vetting

-- A number of passes in a row, all on the same entry.
def Sidebar.passAgain (entry : Entry) (count : Nat) (sidebar : Sidebar) : Sidebar :=
  (fun sidebar => sidebar.pass entry)^[count] sidebar

namespace Desk

-- What may happen. A name stands for the sidebar that was opened last under it.
inductive Step where
  | openSidebar (name : String) (options : Options)
  | drop (name : String)
  | mount (name : String)
  | validate (name : String)
  | set (fieldId : String) (value : Json)

-- What a step makes of a desk. One that is refused, or has no sidebar to act on, changes nothing.
def after (desk : Desk) : Step → Desk
  | .openSidebar name options =>
    match desk.openSidebar name options with
    | .ok next => next
    | .error _ => desk
  | .drop name => desk.drop name
  | .mount name => (desk.panel? name).elim desk desk.mount
  | .validate name => (desk.panel? name).elim desk fun panel => desk.pass panel.number
  | .set fieldId value => (desk.set? fieldId value).getD desk

def afterAll (desk : Desk) (steps : List Step) : Desk := steps.foldl after desk

-- A desk without sidebars, on an entry with some values.
def start (contentType : ContentType) (values : Json.Members) : Desk :=
  { entry := Entry.ofValues contentType values }

-- What holds of a desk at the start and after every step holds after every run.
theorem afterAll_induction {motive : Desk → Prop} (hstep : ∀ desk step, motive desk →
    motive (after desk step)) {desk : Desk} (h : motive desk) (steps : List Step) :
    motive (desk.afterAll steps) := by
  induction steps generalizing desk with
  | nil => exact h
  | cons step steps ih => exact ih (hstep desk step h)

-- The passes that a change sets off. Each panel runs one pass for every watch that it has among
-- those called, all of them on the entry as it is now.
theorem foldl_pass (desk : Desk) (watching : List (String × Nat)) :
    watching.foldl (fun desk (_, number) => desk.pass number) desk =
      { desk with
        panels := desk.panels.map fun panel =>
          { panel with
            sidebar := panel.sidebar.passAgain desk.entry
              ((watching.map (·.2)).count panel.number) } } := by
  unfold Sidebar.passAgain
  induction watching generalizing desk with
  | nil => simp
  | cons watch watching ih =>
    obtain ⟨fieldId, number⟩ := watch
    rw [List.foldl_cons, ih]
    simp only [pass, update, List.map_map, List.map_cons, Desk.mk.injEq, true_and, and_true]
    apply List.map_congr_left
    intro panel _
    by_cases h : panel.number = number
    · subst h
      simp
    · simp [h, Ne.symm h]

-- What setting a declared field does: the value is written first, and then the passes are run.
theorem set?_eq_some {desk next : Desk} {fieldId : String} {value : Json}
    (h : desk.set? fieldId value = some next) :
    ∃ entry, desk.entry.set? fieldId value = some entry ∧
      next = { desk with
        entry
        panels := desk.panels.map fun panel =>
          { panel with
            sidebar := panel.sidebar.passAgain entry
              (((desk.watches.filter (·.1 == fieldId)).map (·.2)).count panel.number) } } := by
  unfold set? at h
  obtain ⟨entry, hentry, rfl⟩ := Option.map_eq_some_iff.mp h
  exact ⟨entry, hentry, foldl_pass { desk with entry } _⟩

end Desk

end Vetting
