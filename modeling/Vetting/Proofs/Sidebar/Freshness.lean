import Vetting.Proofs.Outcome
import Vetting.Proofs.Sidebar.Runs

namespace Vetting

namespace Sidebar

-- The sidebar shows what an evaluation of the entry finds now, and a failed one as invalid.
def Shows (sidebar : Sidebar) (entry : Entry) : Prop :=
  match entry.evaluate sidebar.options with
  | .ok verdict =>
    sidebar.verdict = some verdict ∧ (sidebar.status = .valid ↔ verdict.valid = true)
  | .error _ => sidebar.verdict = none ∧ sidebar.status = .invalid

@[simp] theorem pass_options (sidebar : Sidebar) (entry : Entry) :
    (sidebar.pass entry).options = sidebar.options := by
  unfold pass
  split <;> rfl

@[simp] theorem pass_mounted (sidebar : Sidebar) (entry : Entry) :
    (sidebar.pass entry).mounted = sidebar.mounted := by
  unfold pass
  split <;> rfl

@[simp] theorem pass_passes (sidebar : Sidebar) (entry : Entry) :
    (sidebar.pass entry).passes = sidebar.passes + 1 := by
  unfold pass
  split <;> rfl

theorem shows_pass (sidebar : Sidebar) (entry : Entry) : (sidebar.pass entry).Shows entry := by
  unfold Shows
  rw [pass_options]
  unfold pass
  cases entry.evaluate sidebar.options with
  | ok verdict =>
    refine ⟨rfl, ?_⟩
    cases hv : verdict.valid <;> simp [Status.ofVerdict, Status.ofValid, hv]
  | error error => exact ⟨rfl, rfl⟩

@[simp] theorem passAgain_mounted (entry : Entry) (count : Nat) (sidebar : Sidebar) :
    (sidebar.passAgain entry count).mounted = sidebar.mounted := by
  unfold passAgain
  induction count generalizing sidebar with
  | zero => rfl
  | succ count ih => rw [Function.iterate_succ_apply, ih, pass_mounted]

theorem shows_passAgain (entry : Entry) {count : Nat} (hcount : 0 < count) (sidebar : Sidebar) :
    (sidebar.passAgain entry count).Shows entry := by
  obtain ⟨count, rfl⟩ := Nat.exists_eq_add_one_of_ne_zero (Nat.ne_of_gt hcount)
  unfold passAgain
  rw [Function.iterate_succ_apply']
  exact shows_pass _ entry

theorem Shows.status_eq_valid_iff {sidebar : Sidebar} {entry : Entry}
    (shows : sidebar.Shows entry) :
    sidebar.status = .valid ↔
      ∃ verdict, entry.evaluate sidebar.options = .ok verdict ∧ verdict.valid = true := by
  unfold Shows at shows
  cases h : entry.evaluate sidebar.options with
  | ok verdict =>
    rw [h] at shows
    simpa using shows.2
  | error error =>
    rw [h] at shows
    simp [shows.2]

theorem Shows.verdict_eq_some_iff {sidebar : Sidebar} {entry : Entry}
    (shows : sidebar.Shows entry) {verdict : Verdict} :
    sidebar.verdict = some verdict ↔ entry.evaluate sidebar.options = .ok verdict := by
  unfold Shows at shows
  cases h : entry.evaluate sidebar.options with
  | ok found =>
    rw [h] at shows
    rw [shows.1, Option.some.injEq, Except.ok.injEq]
  | error error =>
    rw [h] at shows
    simp [shows.1]

theorem shows_mount {sidebar : Sidebar} {entry : Entry}
    (h : sidebar.mounted = true → sidebar.Shows entry) : (sidebar.mount entry).Shows entry := by
  unfold mount
  split
  · rename_i mounted
    exact h mounted
  · exact shows_pass sidebar entry

end Sidebar

namespace Desk

-- What every step keeps: a mounted sidebar watches all fields that can change, and is not stale.
structure Fresh (desk : Desk) : Prop where
  complete : desk.entry.Complete
  watches : ∀ panel ∈ desk.panels, panel.sidebar.mounted = true →
    ∀ id ∈ desk.entry.contentType.fieldIds, (id, panel.number) ∈ desk.watches
  shows : ∀ panel ∈ desk.panels, panel.sidebar.mounted = true → panel.sidebar.Shows desk.entry

theorem fresh_start (contentType : ContentType) (values : Json.Members) :
    (start contentType values).Fresh where
  complete := Entry.complete_ofValues contentType values
  watches _ hp := absurd hp List.not_mem_nil
  shows _ hp := absurd hp List.not_mem_nil

namespace Fresh

variable {desk : Desk}

theorem drop (fresh : desk.Fresh) (name : String) : (desk.drop name).Fresh where
  complete := fresh.complete
  watches panel hp := fresh.watches panel (List.mem_filter.mp hp).1
  shows panel hp := fresh.shows panel (List.mem_filter.mp hp).1

-- A new sidebar is not mounted yet.
theorem openSidebar (fresh : desk.Fresh) {name : String} {options : Options} {next : Desk}
    (h : desk.openSidebar name options = .ok next) : next.Fresh := by
  obtain ⟨_, _, h⟩ := Outcome.bind_eq_ok.mp h
  cases h
  have older {panel : Panel} (hp : panel ∈ (desk.drop name).panels ++
      [{ name, number := desk.opened, sidebar := { options } }])
      (mounted : panel.sidebar.mounted = true) : panel ∈ (desk.drop name).panels := by
    rcases List.mem_append.mp hp with hp | hp
    · exact hp
    · rw [List.mem_singleton.mp hp] at mounted
      cases mounted
  exact {
    complete := fresh.complete
    watches := fun panel hp mounted => (fresh.drop name).watches panel (older hp mounted) mounted
    shows := fun panel hp mounted => (fresh.drop name).shows panel (older hp mounted) mounted }

theorem pass (fresh : desk.Fresh) (number : Nat) : (desk.pass number).Fresh := by
  refine ⟨fresh.complete, ?_, ?_⟩ <;> intro panel hp mounted <;>
    obtain ⟨before, hbefore, rfl⟩ := List.mem_map.mp hp
  · have known : before.sidebar.mounted = true := by split at mounted <;> simpa using mounted
    have watched := fresh.watches before hbefore known
    split <;> exact watched
  · by_cases hn : (before.number == number) = true
    · rw [if_pos hn]
      exact Sidebar.shows_pass before.sidebar desk.entry
    · rw [if_neg hn] at mounted ⊢
      exact fresh.shows before hbefore mounted

-- The watches of a mounted sidebar are added in the step that mounts it.
theorem mount (fresh : desk.Fresh) (panel : Panel) : (desk.mount panel).Fresh := by
  unfold Desk.mount
  split
  · exact fresh
  refine ⟨fresh.complete, ?_, ?_⟩ <;> intro after ha mounted <;>
    obtain ⟨before, hbefore, rfl⟩ := List.mem_map.mp ha
  · intro id hid
    by_cases hn : (before.number == panel.number) = true
    · rw [if_pos hn]
      apply List.mem_append_right
      exact List.mem_map.mpr ⟨id, hid, by rw [beq_iff_eq.mp hn]⟩
    · rw [if_neg hn] at mounted ⊢
      exact List.mem_append_left _ (fresh.watches before hbefore mounted id hid)
  · by_cases hn : (before.number == panel.number) = true
    · rw [if_pos hn]
      exact Sidebar.shows_mount (fresh.shows before hbefore)
    · rw [if_neg hn] at mounted ⊢
      exact fresh.shows before hbefore mounted

-- A declared field is watched by every mounted sidebar, so each runs a pass on the new values.
theorem set? (fresh : desk.Fresh) {fieldId : String} {value : Json} {next : Desk}
    (h : desk.set? fieldId value = some next) : next.Fresh := by
  obtain ⟨entry, hentry, rfl⟩ := set?_eq_some h
  obtain ⟨declared, rfl⟩ := Entry.set?_eq_some hentry
  refine ⟨fresh.complete.set? hentry, ?_, ?_⟩ <;> intro panel hp mounted <;>
    obtain ⟨before, hbefore, rfl⟩ := List.mem_map.mp hp <;>
    rw [Sidebar.passAgain_mounted] at mounted
  · exact fresh.watches before hbefore mounted
  · apply Sidebar.shows_passAgain
    apply List.count_pos_iff.mpr
    have watched := fresh.watches before hbefore mounted fieldId
      ((fresh.complete fieldId).mp declared)
    exact List.mem_map.mpr ⟨_, List.mem_filter.mpr ⟨watched, by simp⟩, rfl⟩

theorem after (fresh : desk.Fresh) (step : Step) : (desk.after step).Fresh := by
  cases step with
  | openSidebar name options =>
    simp only [Desk.after]
    split
    · rename_i next h
      exact fresh.openSidebar h
    · exact fresh
  | drop name => exact fresh.drop name
  | mount name =>
    simp only [Desk.after]
    cases desk.panel? name with
    | none => exact fresh
    | some panel => exact fresh.mount panel
  | validate name =>
    simp only [Desk.after]
    cases desk.panel? name with
    | none => exact fresh
    | some panel => exact fresh.pass panel.number
  | set fieldId value =>
    simp only [Desk.after]
    cases h : desk.set? fieldId value with
    | none => exact fresh
    | some next => exact fresh.set? h

end Fresh

-- Whatever was done with the sidebars on an entry, each mounted one shows its present state.
theorem shows_of_mounted (contentType : ContentType) (values : Json.Members)
    (steps : List Step) :
    let desk := (start contentType values).afterAll steps
    ∀ panel ∈ desk.panels, panel.sidebar.mounted = true → panel.sidebar.Shows desk.entry :=
  (afterAll_induction (fun _ step fresh => fresh.after step) (fresh_start contentType values)
    steps).shows

-- Two sidebars, one dropped and one replaced, changes of a declared and of an unknown field, and a
-- sidebar that is mounted twice.
def replacement : List Step :=
  [.openSidebar "left" {}, .mount "left", .openSidebar "right" {}, .mount "right",
    .set "title" (.string "draft"), .set "subtitle" .null, .drop "left", .openSidebar "right" {},
    .mount "right", .mount "right", .set "title" .null]

def titled : ContentType := { fields := [{ id := "title", type := .text, required := true }] }

theorem shows_of_mounted_replacement :
    ∃ panel ∈ ((start titled []).afterAll replacement).panels, panel.sidebar.mounted = true ∧
      panel.sidebar.Shows ((start titled []).afterAll replacement).entry := by
  have mounted : ((start titled []).afterAll replacement).panels.map (·.sidebar.mounted) =
      [true] := by decide +kernel
  have some : true ∈ ((start titled []).afterAll replacement).panels.map (·.sidebar.mounted) :=
    mounted ▸ List.mem_cons_self
  obtain ⟨panel, hp, hpanel⟩ := List.mem_map.mp some
  exact ⟨panel, hp, hpanel, shows_of_mounted titled [] replacement panel hp hpanel⟩

end Desk

end Vetting
