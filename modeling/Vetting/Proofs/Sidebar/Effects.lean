import Vetting.Proofs.Content.Ids
import Vetting.Proofs.Sidebar.Freshness

namespace Vetting

namespace Desk

-- A step that takes away the sidebar under a name.
def Step.Ends (name : String) : Step → Prop
  | .openSidebar other _ => other = name
  | .drop other => other = name
  | _ => False

-- What a step makes of a sidebar that it does not take away.
def react (desk : Desk) (step : Step) (panel : Panel) : Sidebar :=
  match step with
  | .mount name => if panel.name = name then panel.sidebar.mount desk.entry else panel.sidebar
  | .validate name => if panel.name = name then panel.sidebar.pass desk.entry else panel.sidebar
  | .set fieldId value =>
    match desk.entry.set? fieldId value with
    | some entry => if panel.sidebar.mounted then panel.sidebar.pass entry else panel.sidebar
    | none => panel.sidebar
  | _ => panel.sidebar

-- The steps that make a sidebar run a pass: validating it, mounting it for the first time, and
-- changing a declared field while it is mounted.
def Runs (desk : Desk) (panel : Panel) : Step → Prop
  | .validate name => panel.name = name
  | .mount name => panel.name = name ∧ panel.sidebar.mounted = false
  | .set fieldId value => panel.sidebar.mounted = true ∧ (desk.set? fieldId value).isSome = true
  | _ => False

-- What every step keeps, with the numbers of the sidebars that were mounted so far in the order of
-- their mounting.
structure Orderly (contentType : ContentType) (mounted : List Nat) (desk : Desk) : Prop where
  contentType_eq : desk.entry.contentType = contentType
  complete : desk.entry.Complete
  names : (desk.panels.map (·.name)).Nodup
  numbers : (desk.panels.map (·.number)).Nodup
  numbered : ∀ panel ∈ desk.panels, panel.number < desk.opened
  sound : desk.panels ≠ [] → contentType.check = .ok ()
  distinct : mounted.Nodup
  mounted_lt : ∀ number ∈ mounted, number < desk.opened
  mem_mounted : ∀ panel ∈ desk.panels, panel.number ∈ mounted ↔ panel.sidebar.mounted = true
  watches : desk.watches =
    mounted.flatMap fun number => contentType.fieldIds.map fun id => (id, number)

theorem orderly_start (contentType : ContentType) (values : Json.Members) :
    (start contentType values).Orderly contentType [] where
  contentType_eq := Entry.ofValues_contentType contentType values
  complete := Entry.complete_ofValues contentType values
  names := List.nodup_nil
  numbers := List.nodup_nil
  numbered _ hp := absurd hp List.not_mem_nil
  sound h := absurd rfl h
  distinct := List.nodup_nil
  mounted_lt _ hn := absurd hn List.not_mem_nil
  mem_mounted _ hp := absurd hp List.not_mem_nil
  watches := rfl

-- The number of the sidebar that a step mounts, if it mounts one.
def newlyMounted (desk : Desk) : Step → List Nat
  | .mount name =>
    match desk.panel? name with
    | some panel => if panel.sidebar.mounted then [] else [panel.number]
    | none => []
  | _ => []

-- What a step does apart from the sidebars. Only a change of a declared field changes the entry,
-- and watches are only added, for the sidebar that is mounted.
theorem after_cases (desk : Desk) (step : Step) :
    ((desk.after step).entry = desk.entry ∨
      ∃ fieldId value, step = .set fieldId value ∧
        desk.entry.set? fieldId value = some (desk.after step).entry) ∧
    ((desk.after step).watches = desk.watches ++ (desk.newlyMounted step).flatMap fun number =>
      desk.entry.contentType.fieldIds.map fun id => (id, number)) ∧
    ((∀ name, ¬step.Ends name) → (desk.after step).opened = desk.opened) := by
  cases step with
  | openSidebar name options =>
    have same : (desk.after (.openSidebar name options)).entry = desk.entry ∧
        (desk.after (.openSidebar name options)).watches = desk.watches := by
      simp only [after]
      split
      · rename_i next h
        obtain ⟨_, _, h⟩ := Outcome.bind_eq_ok.mp h
        cases h
        exact ⟨rfl, rfl⟩
      · exact ⟨rfl, rfl⟩
    refine ⟨.inl same.1, ?_, fun stays => absurd rfl (stays name)⟩
    rw [same.2]
    exact (List.append_nil _).symm
  | drop name => exact ⟨.inl rfl, (List.append_nil _).symm, fun _ => rfl⟩
  | mount name =>
    simp only [after, newlyMounted]
    cases desk.panel? name with
    | none => exact ⟨.inl rfl, (List.append_nil _).symm, fun _ => rfl⟩
    | some panel =>
      simp only [Option.elim_some, Desk.mount]
      split
      · exact ⟨.inl rfl, (List.append_nil _).symm, fun _ => rfl⟩
      · rw [List.flatMap_singleton]
        exact ⟨.inl rfl, rfl, fun _ => rfl⟩
  | validate name =>
    simp only [after, newlyMounted, List.flatMap_nil, List.append_nil]
    cases desk.panel? name <;> exact ⟨.inl rfl, rfl, fun _ => rfl⟩
  | set fieldId value =>
    simp only [after, newlyMounted, List.flatMap_nil, List.append_nil]
    cases h : desk.set? fieldId value with
    | none => exact ⟨.inl rfl, rfl, fun _ => rfl⟩
    | some next =>
      obtain ⟨entry, hentry, rfl⟩ := set?_eq_some h
      exact ⟨.inr ⟨fieldId, value, rfl, hentry⟩, rfl, fun _ => rfl⟩

theorem entry_after_set {desk : Desk} {fieldId : String} {value : Json} {entry : Entry}
    (h : desk.entry.set? fieldId value = some entry) :
    (desk.after (.set fieldId value)).entry = entry := by
  simp only [after, Desk.set?, h, Option.map_some, Option.getD_some]
  rw [foldl_pass]

-- A sidebar runs one pass on the entry as the step leaves it, or stays as it was.
theorem react_cases (desk : Desk) (step : Step) (panel : Panel) :
    (desk.Runs panel step ∧ ∃ mounted,
      (mounted = true ↔ panel.sidebar.mounted = true ∨ step = .mount panel.name) ∧
      desk.react step panel = { panel.sidebar.pass (desk.after step).entry with mounted }) ∨
    (¬desk.Runs panel step ∧ (step = .mount panel.name → panel.sidebar.mounted = true) ∧
      desk.react step panel = panel.sidebar) := by
  have unset (h : ∀ fieldId value, step ≠ .set fieldId value) :
      (desk.after step).entry = desk.entry := by
    rcases (desk.after_cases step).1 with same | ⟨fieldId, value, hset, _⟩
    · exact same
    · exact absurd hset (h fieldId value)
  have unmounted (h : ∀ name, step ≠ .mount name) (entry : Entry) :
      (panel.sidebar.pass entry).mounted = true ↔
        panel.sidebar.mounted = true ∨ step = .mount panel.name := by
    rw [Sidebar.pass_mounted, or_iff_left (h panel.name)]
  cases step with
  | openSidebar name options => exact .inr ⟨id, nofun, rfl⟩
  | drop name => exact .inr ⟨id, nofun, rfl⟩
  | validate name =>
    rw [unset nofun]
    by_cases hname : panel.name = name
    · exact .inl ⟨hname, _, unmounted nofun desk.entry, if_pos hname⟩
    · exact .inr ⟨hname, nofun, if_neg hname⟩
  | mount name =>
    rw [unset nofun]
    by_cases hname : panel.name = name
    · subst hname
      have mounts : desk.react (.mount panel.name) panel = panel.sidebar.mount desk.entry :=
        if_pos rfl
      rw [mounts, Sidebar.mount]
      by_cases again : panel.sidebar.mounted = true
      · refine .inr ⟨fun runs => ?_, fun _ => again, if_pos again⟩
        rw [runs.2] at again
        cases again
      · refine .inl ⟨⟨rfl, eq_false_of_ne_true again⟩, true, ?_, if_neg again⟩
        exact ⟨fun _ => .inr rfl, fun _ => rfl⟩
    · refine .inr ⟨fun runs => hname runs.1, fun same => ?_, if_neg hname⟩
      cases same
      exact absurd rfl hname
  | set fieldId value =>
    cases h : desk.entry.set? fieldId value with
    | none =>
      have refused : desk.set? fieldId value = none := by rw [Desk.set?, h, Option.map_none]
      refine .inr ⟨fun runs => ?_, nofun, ?_⟩
      · have some := runs.2
        rw [refused] at some
        cases some
      · simp only [react, h]
    | some entry =>
      have accepted : (desk.set? fieldId value).isSome = true := by
        rw [Desk.set?, h, Option.isSome_map, Option.isSome_some]
      rw [entry_after_set h]
      by_cases shown : panel.sidebar.mounted = true
      · refine .inl ⟨⟨shown, accepted⟩, _, unmounted nofun entry, ?_⟩
        simp only [react, h, if_pos shown]
      · refine .inr ⟨fun runs => shown runs.1, nofun, ?_⟩
        simp only [react, h, if_neg shown]

@[simp] theorem react_options (desk : Desk) (step : Step) (panel : Panel) :
    (desk.react step panel).options = panel.sidebar.options := by
  rcases desk.react_cases step panel with ⟨_, mounted, _, h⟩ | ⟨_, _, h⟩
  · rw [h]
    exact Sidebar.pass_options ..
  · rw [h]

theorem react_mounted (desk : Desk) (step : Step) (panel : Panel) :
    (desk.react step panel).mounted = true ↔
      panel.sidebar.mounted = true ∨ step = .mount panel.name := by
  rcases desk.react_cases step panel with ⟨_, mounted, hmounted, h⟩ | ⟨_, before, h⟩
  · rw [h]
    exact hmounted
  · rw [h]
    exact ⟨.inl, fun either => either.elim id before⟩

theorem panel?_eq_some {desk : Desk} {name : String} {panel : Panel}
    (h : desk.panel? name = some panel) : panel ∈ desk.panels ∧ panel.name = name :=
  ⟨List.mem_of_find?_eq_some h, by simpa using List.find?_some h⟩

theorem ne_of_panel?_eq_none {desk : Desk} {name : String} (h : desk.panel? name = none)
    {panel : Panel} (hp : panel ∈ desk.panels) : panel.name ≠ name := by
  have absent := List.find?_eq_none.mp h panel hp
  simpa using absent

-- A step mounts one sidebar at most, and only one that is there and was not mounted.
theorem newlyMounted_cases (desk : Desk) (step : Step) :
    desk.newlyMounted step = [] ∨
      ∃ panel ∈ desk.panels, panel.sidebar.mounted = false ∧
        desk.newlyMounted step = [panel.number] := by
  cases step with
  | mount name =>
    simp only [newlyMounted]
    cases h : desk.panel? name with
    | none => exact .inl rfl
    | some panel =>
      dsimp only
      split
      · exact .inl rfl
      · rename_i first
        exact .inr ⟨panel, (panel?_eq_some h).1, Bool.not_eq_true _ ▸ first, rfl⟩
  | _ => exact .inl rfl

namespace Orderly

variable {contentType : ContentType} {mounted : List Nat} {desk : Desk}

-- The panel under a name is the one with its number.
theorem number_eq_iff (orderly : desk.Orderly contentType mounted) {name : String}
    {target panel : Panel} (htarget : desk.panel? name = some target)
    (hp : panel ∈ desk.panels) : panel.number = target.number ↔ panel.name = name := by
  obtain ⟨ht, rfl⟩ := panel?_eq_some htarget
  constructor
  · intro same
    rw [List.inj_on_of_nodup_map orderly.numbers hp ht same]
  · intro same
    rw [List.inj_on_of_nodup_map orderly.names hp ht same]

-- A change sets off one pass of a sidebar that was mounted, and none of any other.
theorem count_watching (orderly : desk.Orderly contentType mounted) {fieldId : String}
    (declared : fieldId ∈ contentType.fieldIds) {panel : Panel} (hp : panel ∈ desk.panels) :
    ((desk.watches.filter (·.1 == fieldId)).map (·.2)).count panel.number =
      if panel.sidebar.mounted then 1 else 0 := by
  have once : contentType.fieldIds.count fieldId = 1 :=
    List.count_eq_one_of_mem
      (ContentType.nodup_of_check (orderly.sound (List.ne_nil_of_mem hp))) declared
  have each (number : Nat) : ((contentType.fieldIds.map fun id => (id, number)).filter
      (·.1 == fieldId)).map (·.2) = [number] := by
    have found : contentType.fieldIds.filter (· == fieldId) = [fieldId] := by
      rw [List.filter_beq, once, List.replicate_one]
    rw [List.filter_map, List.map_map]
    exact congrArg (List.map fun _ => number) found
  have watching : (desk.watches.filter (·.1 == fieldId)).map (·.2) = mounted := by
    rw [orderly.watches, List.filter_flatMap, List.map_flatMap]
    simp only [each, List.flatMap_singleton']
  rw [watching]
  by_cases h : panel.sidebar.mounted = true
  · rw [if_pos h]
    exact List.count_eq_one_of_mem orderly.distinct ((orderly.mem_mounted panel hp).mpr h)
  · rw [if_neg h]
    exact List.count_eq_zero.mpr fun hm => h ((orderly.mem_mounted panel hp).mp hm)

-- A change by number is a change by name.
theorem panels_update (orderly : desk.Orderly contentType mounted) {name : String} {target : Panel}
    (h : desk.panel? name = some target) (change : Sidebar → Sidebar) :
    (desk.update target.number change).panels = desk.panels.map fun panel =>
      { panel with
        sidebar := if panel.name = name then change panel.sidebar else panel.sidebar } := by
  apply List.map_congr_left
  intro panel hp
  have same := orderly.number_eq_iff h hp
  by_cases hname : panel.name = name
  · rw [if_pos hname, if_pos (beq_iff_eq.mpr (same.mpr hname))]
  · have differs : ¬(panel.number == target.number) = true := by
      rw [beq_iff_eq, same]
      exact hname
    rw [if_neg hname, if_neg differs]

-- Mounting a sidebar again changes nothing.
theorem panels_mount (orderly : desk.Orderly contentType mounted) {name : String} {target : Panel}
    (h : desk.panel? name = some target) :
    (desk.mount target).panels = desk.panels.map fun panel =>
      { panel with
        sidebar :=
          if panel.name = name then panel.sidebar.mount desk.entry else panel.sidebar } := by
  by_cases again : target.sidebar.mounted = true
  · rw [Desk.mount, if_pos again]
    conv_lhs => rw [← List.map_id desk.panels]
    apply List.map_congr_left
    intro panel hp
    by_cases hname : panel.name = name
    · obtain ⟨ht, rfl⟩ := panel?_eq_some h
      obtain rfl := List.inj_on_of_nodup_map orderly.names hp ht hname
      simp [Sidebar.mount, again]
    · rw [if_neg hname]
      rfl
  · have first : (desk.mount target).panels =
        (desk.update target.number (·.mount desk.entry)).panels := by
      rw [Desk.mount, if_neg again]
    rw [first]
    exact orderly.panels_update h (·.mount desk.entry)

-- Validating, mounting and setting change the sidebars where they stand.
theorem panels_react (orderly : desk.Orderly contentType mounted) {step : Step}
    (stays : ∀ name, ¬step.Ends name) :
    (desk.after step).panels =
      desk.panels.map fun panel => { panel with sidebar := desk.react step panel } := by
  have unchanged (h : ∀ panel ∈ desk.panels, desk.react step panel = panel.sidebar) :
      desk.panels = desk.panels.map fun panel =>
        { panel with sidebar := desk.react step panel } := by
    conv_lhs => rw [← List.map_id desk.panels]
    apply List.map_congr_left
    intro panel hp
    rw [h panel hp]
    rfl
  cases step with
  | openSidebar name options => exact absurd rfl (stays name)
  | drop name => exact absurd rfl (stays name)
  | validate name =>
    simp only [after]
    cases h : desk.panel? name with
    | none =>
      apply unchanged
      intro panel hp
      exact if_neg (ne_of_panel?_eq_none h hp)
    | some target => exact orderly.panels_update h (·.pass desk.entry)
  | mount name =>
    simp only [after]
    cases h : desk.panel? name with
    | none =>
      apply unchanged
      intro panel hp
      exact if_neg (ne_of_panel?_eq_none h hp)
    | some target => exact orderly.panels_mount h
  | set fieldId value =>
    simp only [after]
    cases h : desk.set? fieldId value with
    | none =>
      have refused : desk.entry.set? fieldId value = none := by
        simpa [Desk.set?] using h
      apply unchanged
      intro panel _
      simp [react, refused]
    | some next =>
      obtain ⟨entry, hentry, rfl⟩ := set?_eq_some h
      have declared : fieldId ∈ contentType.fieldIds := by
        rw [← orderly.contentType_eq, ← orderly.complete]
        exact (Entry.set?_eq_some hentry).1
      apply List.map_congr_left
      intro panel hp
      rw [orderly.count_watching declared hp]
      simp only [react, hentry]
      split
      · rfl
      · rfl

theorem drop (orderly : desk.Orderly contentType mounted) (name : String) :
    (desk.drop name).Orderly contentType mounted := by
  have fewer : (desk.drop name).panels.Sublist desk.panels := List.filter_sublist
  exact {
    contentType_eq := orderly.contentType_eq
    complete := orderly.complete
    names := orderly.names.sublist (fewer.map _)
    numbers := orderly.numbers.sublist (fewer.map _)
    numbered := fun panel hp => orderly.numbered panel (fewer.subset hp)
    sound := fun some => orderly.sound fun none => some (List.sublist_nil.mp (none ▸ fewer))
    distinct := orderly.distinct
    mounted_lt := orderly.mounted_lt
    mem_mounted := fun panel hp => orderly.mem_mounted panel (fewer.subset hp)
    watches := orderly.watches }

-- A new sidebar takes a name that was freed and a number that was never given.
theorem openSidebar (orderly : desk.Orderly contentType mounted) {name : String}
    {options : Options} {next : Desk} (h : desk.openSidebar name options = .ok next) :
    next.Orderly contentType mounted := by
  obtain ⟨_, checked, h⟩ := Outcome.bind_eq_ok.mp h
  have sound : desk.entry.contentType.check = .ok () := Outcome.mapError_eq_ok.mp checked
  cases h
  have kept := orderly.drop name
  have numbered : ∀ panel ∈ (desk.drop name).panels, panel.number < desk.opened := kept.numbered
  constructor
  case contentType_eq => exact kept.contentType_eq
  case complete => exact kept.complete
  case names =>
    rw [List.map_append, List.map_singleton, List.nodup_append']
    refine ⟨kept.names, List.nodup_singleton _, List.disjoint_singleton.mpr ?_⟩
    intro taken
    obtain ⟨panel, hp, same⟩ := List.mem_map.mp taken
    have differs := (List.mem_filter.mp hp).2
    simp [same] at differs
  case numbers =>
    rw [List.map_append, List.map_singleton, List.nodup_append']
    refine ⟨kept.numbers, List.nodup_singleton _, List.disjoint_singleton.mpr ?_⟩
    intro taken
    obtain ⟨panel, hp, same⟩ := List.mem_map.mp taken
    exact Nat.ne_of_lt (numbered panel hp) same
  case numbered =>
    intro panel hp
    rcases List.mem_append.mp hp with hp | hp
    · exact Nat.lt_succ_of_lt (numbered panel hp)
    · rw [List.mem_singleton.mp hp]
      exact Nat.lt_succ_self _
  case sound =>
    intro _
    rwa [orderly.contentType_eq] at sound
  case distinct => exact kept.distinct
  case mounted_lt =>
    intro number hn
    exact Nat.lt_succ_of_lt (kept.mounted_lt number hn)
  case mem_mounted =>
    intro panel hp
    rcases List.mem_append.mp hp with hp | hp
    · exact kept.mem_mounted panel hp
    · rw [List.mem_singleton.mp hp]
      have unknown : desk.opened ∉ mounted := fun hn =>
        Nat.lt_irrefl _ (orderly.mounted_lt _ hn)
      simpa using unknown
  case watches => exact kept.watches

theorem mem_newlyMounted (orderly : desk.Orderly contentType mounted) {step : Step}
    {panel : Panel} (hp : panel ∈ desk.panels) : panel.number ∈ desk.newlyMounted step ↔
      step = .mount panel.name ∧ panel.sidebar.mounted = false := by
  cases step with
  | mount name =>
    simp only [newlyMounted]
    cases h : desk.panel? name with
    | none => simp [(ne_of_panel?_eq_none h hp).symm]
    | some target =>
      have same := orderly.number_eq_iff h hp
      by_cases hname : panel.name = name
      · obtain ⟨ht, hname'⟩ := panel?_eq_some h
        obtain rfl := List.inj_on_of_nodup_map orderly.names hp ht (hname.trans hname'.symm)
        by_cases again : panel.sidebar.mounted = true <;> simp [again, hname]
      · have other : panel.number ≠ target.number := fun same' => hname (same.mp same')
        by_cases again : target.sidebar.mounted = true <;> simp [again, other, Ne.symm hname]
  | _ => simp [newlyMounted]

theorem react (orderly : desk.Orderly contentType mounted) {step : Step}
    (stays : ∀ name, ¬step.Ends name) :
    (desk.after step).Orderly contentType (mounted ++ desk.newlyMounted step) := by
  have panels := orderly.panels_react stays
  obtain ⟨entry, watches, opened⟩ := desk.after_cases step
  have opened := opened stays
  have before {panel : Panel} (hp : panel ∈ (desk.after step).panels) :
      ∃ old ∈ desk.panels, panel = { old with sidebar := desk.react step old } := by
    rw [panels] at hp
    obtain ⟨old, hold, rfl⟩ := List.mem_map.mp hp
    exact ⟨old, hold, rfl⟩
  have kept : (desk.after step).entry.contentType = desk.entry.contentType ∧
      (desk.after step).entry.Complete := by
    rcases entry with same | ⟨fieldId, value, _, hset⟩
    · rw [same]
      exact ⟨rfl, orderly.complete⟩
    · refine ⟨?_, orderly.complete.set? hset⟩
      rw [(Entry.set?_eq_some hset).2]
  have newly : (desk.newlyMounted step).Nodup ∧
      ∀ number ∈ desk.newlyMounted step, number < desk.opened ∧ number ∉ mounted := by
    rcases desk.newlyMounted_cases step with none | ⟨panel, hp, first, one⟩
    · simp [none]
    · have unknown : panel.number ∉ mounted := by
        rw [orderly.mem_mounted panel hp, first]
        exact Bool.false_ne_true
      simp [one, orderly.numbered panel hp, unknown]
  constructor
  case contentType_eq => rw [kept.1, orderly.contentType_eq]
  case complete => exact kept.2
  case names =>
    rw [panels, List.map_map]
    exact orderly.names
  case numbers =>
    rw [panels, List.map_map]
    exact orderly.numbers
  case numbered =>
    intro panel hp
    obtain ⟨old, hold, rfl⟩ := before hp
    rw [opened]
    exact orderly.numbered old hold
  case sound =>
    intro some
    apply orderly.sound
    rintro none
    rw [panels, none] at some
    exact some rfl
  case distinct =>
    rw [List.nodup_append']
    refine ⟨orderly.distinct, newly.1, ?_⟩
    intro number hn hnew
    exact (newly.2 number hnew).2 hn
  case mounted_lt =>
    intro number hn
    rw [opened]
    rcases List.mem_append.mp hn with hn | hn
    · exact orderly.mounted_lt number hn
    · exact (newly.2 number hn).1
  case mem_mounted =>
    intro panel hp
    obtain ⟨old, hold, rfl⟩ := before hp
    rw [react_mounted, List.mem_append, orderly.mem_mounted old hold,
      orderly.mem_newlyMounted hold]
    by_cases again : old.sidebar.mounted = true <;> simp [again]
  case watches =>
    rw [watches, orderly.watches, List.flatMap_append, orderly.contentType_eq]

-- Every step keeps the order, and adds the sidebar that it mounts to the mounted ones.
theorem after (orderly : desk.Orderly contentType mounted) (step : Step) :
    (desk.after step).Orderly contentType (mounted ++ desk.newlyMounted step) := by
  cases step with
  | openSidebar name options =>
    simp only [newlyMounted, List.append_nil, Desk.after]
    split
    · rename_i next h
      exact orderly.openSidebar h
    · exact orderly
  | drop name =>
    simp only [newlyMounted, List.append_nil]
    exact orderly.drop name
  | mount name => exact orderly.react fun _ => id
  | validate name => exact orderly.react fun _ => id
  | set fieldId value => exact orderly.react fun _ => id

-- A change succeeds where the field is declared.
theorem isSome_set?_iff (orderly : desk.Orderly contentType mounted) (fieldId : String)
    (value : Json) : (desk.set? fieldId value).isSome = true ↔ fieldId ∈ contentType.fieldIds := by
  rw [← orderly.contentType_eq, ← orderly.complete fieldId, Desk.set?, Option.isSome_map,
    Entry.set?]
  by_cases declared : desk.entry.values.contains fieldId = true
  · rw [if_pos declared, Option.isSome_some, declared]
  · rw [if_neg declared, Option.isSome_none, eq_false_of_ne_true declared]

-- A sidebar that is there after a step was opened by it, or was there before and not taken away.
theorem mem_panels_after (orderly : desk.Orderly contentType mounted) {step : Step} {panel : Panel}
    (h : panel ∈ (desk.after step).panels) :
    (∃ options, step = .openSidebar panel.name options ∧ panel.sidebar = { options }) ∨
    ∃ old ∈ desk.panels, ¬step.Ends old.name ∧
      panel = { old with sidebar := desk.react step old } := by
  have stays (stays : ∀ name, ¬step.Ends name) : ∃ old ∈ desk.panels, ¬step.Ends old.name ∧
      panel = { old with sidebar := desk.react step old } := by
    rw [orderly.panels_react stays] at h
    obtain ⟨old, hold, rfl⟩ := List.mem_map.mp h
    exact ⟨old, hold, stays old.name, rfl⟩
  have dropped {name : String} (h : panel ∈ (desk.drop name).panels) :
      panel ∈ desk.panels ∧ name ≠ panel.name := by
    obtain ⟨hp, differs⟩ := List.mem_filter.mp h
    exact ⟨hp, Ne.symm (bne_iff_ne.mp differs)⟩
  cases step with
  | openSidebar name options =>
    simp only [Desk.after] at h
    split at h
    · rename_i next hopened
      obtain ⟨_, _, hopened⟩ := Outcome.bind_eq_ok.mp hopened
      cases hopened
      rcases List.mem_append.mp h with h | h
      · obtain ⟨hp, other⟩ := dropped h
        exact .inr ⟨panel, hp, other, rfl⟩
      · obtain rfl := List.mem_singleton.mp h
        exact .inl ⟨options, rfl, rfl⟩
    · -- The content type is refused, but then no sidebar was ever opened.
      rename_i error refused
      have sound := orderly.sound (List.ne_nil_of_mem h)
      rw [← orderly.contentType_eq] at sound
      rw [Desk.openSidebar, sound] at refused
      cases refused
  | drop name =>
    obtain ⟨hp, other⟩ := dropped h
    exact .inr ⟨panel, hp, other, rfl⟩
  | mount name => exact .inr (stays fun _ => id)
  | validate name => exact .inr (stays fun _ => id)
  | set fieldId value => exact .inr (stays fun _ => id)

-- A sidebar that a step does not take away is there afterwards, as the step leaves it.
theorem mem_after (orderly : desk.Orderly contentType mounted) {step : Step} {panel : Panel}
    (hp : panel ∈ desk.panels) (stays : ¬step.Ends panel.name) :
    { panel with sidebar := desk.react step panel } ∈ (desk.after step).panels := by
  have kept {name : String} (other : name ≠ panel.name) : panel ∈ (desk.drop name).panels :=
    List.mem_filter.mpr ⟨hp, bne_iff_ne.mpr other.symm⟩
  have reacted (stays : ∀ name, ¬step.Ends name) :
      { panel with sidebar := desk.react step panel } ∈ (desk.after step).panels := by
    rw [orderly.panels_react stays]
    exact List.mem_map_of_mem hp
  cases step with
  | openSidebar name options =>
    simp only [Desk.after]
    split
    · next opened =>
      obtain ⟨_, _, opened⟩ := Outcome.bind_eq_ok.mp opened
      cases opened
      exact List.mem_append_left _ (kept stays)
    · exact hp
  | drop name => exact kept stays
  | mount name => exact reacted fun _ => id
  | validate name => exact reacted fun _ => id
  | set fieldId value => exact reacted fun _ => id

-- On a sound content type every sidebar can be opened.
theorem mem_after_openSidebar (orderly : desk.Orderly contentType mounted)
    (sound : contentType.check = .ok ()) (name : String) (options : Options) :
    ⟨name, desk.opened, { options }⟩ ∈ (desk.after (.openSidebar name options)).panels := by
  rw [← orderly.contentType_eq] at sound
  rw [Desk.after, Desk.openSidebar, sound]
  exact List.mem_append_right _ (List.mem_singleton_self _)

-- A sidebar that is there is found by its name.
theorem panel?_of_mem (orderly : desk.Orderly contentType mounted) {panel : Panel}
    (hp : panel ∈ desk.panels) : desk.panel? panel.name = some panel := by
  cases h : desk.panel? panel.name with
  | none => exact absurd rfl (ne_of_panel?_eq_none h hp)
  | some found =>
    obtain ⟨hfound, same⟩ := panel?_eq_some h
    rw [List.inj_on_of_nodup_map orderly.names hfound hp same]

-- Mounting, validating and dropping one sidebar leaves the others and the entry alone.
theorem others_untouched (orderly : desk.Orderly contentType mounted) {name : String} {step : Step}
    (h : step = .mount name ∨ step = .validate name ∨ step = .drop name) :
    (desk.after step).entry = desk.entry ∧
      (desk.after step).panels.filter (·.name != name) =
        desk.panels.filter (·.name != name) := by
  constructor
  · rcases (desk.after_cases step).1 with same | ⟨fieldId, value, rfl, _⟩
    · exact same
    · simp at h
  · have stays (stays : ∀ name, ¬step.Ends name)
        (untouched : ∀ panel, panel.name ≠ name → desk.react step panel = panel.sidebar) :
        (desk.after step).panels.filter (·.name != name) =
          desk.panels.filter (·.name != name) := by
      rw [orderly.panels_react stays, List.filter_map]
      conv_rhs => rw [← List.map_id (desk.panels.filter _)]
      apply List.map_congr_left
      intro panel hp
      have other : panel.name ≠ name := by simpa using (List.mem_filter.mp hp).2
      rw [untouched panel other]
      rfl
    rcases h with rfl | rfl | rfl
    · exact stays (fun _ => id) fun panel other => if_neg other
    · exact stays (fun _ => id) fun panel other => if_neg other
    · simp [Desk.after, Desk.drop, List.filter_filter]

end Orderly

-- The numbers of the sidebars that a run mounts, in the order of their mounting.
def everMounted (desk : Desk) : List Step → List Nat
  | [] => []
  | step :: rest => desk.newlyMounted step ++ everMounted (desk.after step) rest

theorem everMounted_append (desk : Desk) (steps later : List Step) :
    desk.everMounted (steps ++ later) =
      desk.everMounted steps ++ (desk.afterAll steps).everMounted later := by
  induction steps generalizing desk with
  | nil => rfl
  | cons step steps ih =>
    rw [List.cons_append, everMounted, ih, everMounted, List.append_assoc]
    rfl

theorem afterAll_append (desk : Desk) (steps later : List Step) :
    desk.afterAll (steps ++ later) = (desk.afterAll steps).afterAll later :=
  List.foldl_append

theorem Orderly.afterAll {contentType : ContentType} {mounted : List Nat} {desk : Desk}
    (orderly : desk.Orderly contentType mounted) (steps : List Step) :
    (desk.afterAll steps).Orderly contentType (mounted ++ desk.everMounted steps) := by
  induction steps generalizing desk mounted with
  | nil =>
    rw [everMounted, List.append_nil]
    exact orderly
  | cons step steps ih =>
    rw [everMounted, ← List.append_assoc]
    exact ih (orderly.after step)

end Desk

end Vetting
