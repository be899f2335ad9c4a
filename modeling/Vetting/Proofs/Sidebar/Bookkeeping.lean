import Vetting.Proofs.Sidebar.Effects

namespace Vetting

namespace Desk

variable {contentType : ContentType}

def Step.validates (name : String) : Step → Bool
  | .validate other => other == name
  | _ => false

-- A change of a declared field, which is one that succeeds.
def Step.changes (contentType : ContentType) : Step → Bool
  | .set fieldId _ => contentType.fieldIds.contains fieldId
  | _ => false

-- A step that makes a sidebar run a pass, given the steps since it was opened: validating it,
-- mounting it for the first time, and every change of a declared field from then on.
def Step.RunsPass (contentType : ContentType) (name : String) (life : List Step) : Step → Prop
  | .validate other => other = name
  | .mount other => other = name ∧ .mount name ∉ life
  | .set fieldId _ => .mount name ∈ life ∧ fieldId ∈ contentType.fieldIds
  | _ => False

-- The part of a sidebar's life that ends with the step of its latest pass.
inductive LastPass (contentType : ContentType) (name : String) : List Step → List Step → Prop
  | now {life : List Step} {step : Step} (runs : step.RunsPass contentType name life) :
      LastPass contentType name (life ++ [step]) (life ++ [step])
  | still {life upTo : List Step} {step : Step} (idle : ¬step.RunsPass contentType name life)
      (last : LastPass contentType name life upTo) :
      LastPass contentType name (life ++ [step]) upTo

theorem not_lastPass_nil {name : String} {upTo : List Step} :
    ¬LastPass contentType name [] upTo := by
  generalize h : ([] : List Step) = life
  rintro (_ | _) <;> simp at h

theorem lastPass_append_iff {name : String} {life upTo : List Step} {step : Step} :
    LastPass contentType name (life ++ [step]) upTo ↔
      (step.RunsPass contentType name life ∧ upTo = life ++ [step]) ∨
      (¬step.RunsPass contentType name life ∧ LastPass contentType name life upTo) := by
  constructor
  · generalize h : life ++ [step] = longer
    rintro (⟨runs⟩ | ⟨idle, last⟩)
    · obtain ⟨rfl, same⟩ := List.append_inj' h rfl
      cases same
      exact .inl ⟨runs, rfl⟩
    · obtain ⟨rfl, same⟩ := List.append_inj' h rfl
      cases same
      exact .inr ⟨idle, last⟩
  · rintro (⟨runs, rfl⟩ | ⟨idle, last⟩)
    · exact .now runs
    · exact .still idle last

-- How many passes the steps since a sidebar was opened stand for: one for each time it was
-- validated, one for its first mount, and one for each change of a declared field after that.
def Accounts (contentType : ContentType) (name : String) (life : List Step) (passes : Nat) : Prop :=
  (.mount name ∉ life ∧ passes = life.countP (·.validates name)) ∨
  ∃ before after, life = before ++ .mount name :: after ∧ .mount name ∉ before ∧
    passes = life.countP (·.validates name) + 1 + after.countP (·.changes contentType)

theorem Accounts.append_runsPass {name : String} {life : List Step} {passes : Nat}
    (h : Accounts contentType name life passes) {step : Step}
    (runs : step.RunsPass contentType name life) :
    Accounts contentType name (life ++ [step]) (passes + 1) := by
  rcases h with ⟨never, rfl⟩ | ⟨before, after, rfl, first, rfl⟩
  · cases step with
    | validate other =>
      left
      obtain rfl : other = name := runs
      simp [never, List.countP_append, Step.validates]
    | mount other =>
      right
      obtain rfl : other = name := runs.1
      refine ⟨life, [], rfl, never, ?_⟩
      simp [List.countP_append, Step.validates]
    | set fieldId value => exact absurd runs.1 never
    | openSidebar _ _ => exact runs.elim
    | drop _ => exact runs.elim
  · right
    refine ⟨before, after ++ [step], by simp, first, ?_⟩
    -- The sidebar is mounted, so that the step validates it or changes a field.
    have counted : (step.validates name = true ∧ step.changes contentType = false) ∨
        (step.validates name = false ∧ step.changes contentType = true) := by
      cases step with
      | validate other => exact .inl ⟨beq_iff_eq.mpr runs, rfl⟩
      | mount other => exact absurd (by simp) runs.2
      | set fieldId value => exact .inr ⟨rfl, List.contains_iff_mem.mpr runs.2⟩
      | openSidebar _ _ => exact runs.elim
      | drop _ => exact runs.elim
    rcases counted with ⟨validates, changes⟩ | ⟨validates, changes⟩
    · simp only [List.countP_append, List.countP_singleton, validates, changes, if_true,
        Bool.false_eq_true, if_false]
      omega
    · simp only [List.countP_append, List.countP_singleton, validates, changes, if_true,
        Bool.false_eq_true, if_false]
      omega

theorem Accounts.append_idle {name : String} {life : List Step} {passes : Nat}
    (h : Accounts contentType name life passes) {step : Step}
    (idle : ¬step.RunsPass contentType name life) :
    Accounts contentType name (life ++ [step]) passes := by
  have validates : step.validates name = false := by
    cases step with
    | validate other => exact beq_eq_false_iff_ne.mpr idle
    | _ => rfl
  rcases h with ⟨never, rfl⟩ | ⟨before, after, rfl, first, rfl⟩
  · left
    constructor
    · rw [List.mem_append, List.mem_singleton]
      rintro (again | rfl)
      · exact never again
      · exact idle ⟨rfl, never⟩
    · simp [List.countP_append, validates]
  · right
    refine ⟨before, after ++ [step], by simp, first, ?_⟩
    have changes : step.changes contentType = false := by
      cases step with
      | set fieldId value =>
        have undeclared : fieldId ∉ contentType.fieldIds := fun declared => idle ⟨by simp, declared⟩
        simpa [Step.changes] using undeclared
      | _ => rfl
    simp [List.countP_append, List.countP_cons, validates, changes]

-- The steps since a sidebar was opened under a name, if it is still there: the content type let it
-- be opened, and it was neither dropped nor replaced.
structure Lasts (contentType : ContentType) (name : String) (life : List Step) : Prop where
  sound : contentType.check = .ok ()
  undisturbed : ∀ step ∈ life, ¬step.Ends name

theorem lasts_append_singleton {name : String} {life : List Step} {step : Step} :
    Lasts contentType name (life ++ [step]) ↔ Lasts contentType name life ∧ ¬step.Ends name := by
  constructor
  · rintro ⟨sound, undisturbed⟩
    obtain ⟨before, last⟩ := List.forall_mem_append.mp undisturbed
    exact ⟨⟨sound, before⟩, last step (List.mem_singleton_self step)⟩
  · rintro ⟨⟨sound, before⟩, last⟩
    refine ⟨sound, List.forall_mem_append.mpr ⟨before, fun other ho => ?_⟩⟩
    rwa [List.mem_singleton.mp ho]

-- What a sidebar went through since it was opened, in a run that begins with `first`.
structure Tracked (contentType : ContentType) (first : Desk) (earlier life : List Step)
    (panel : Panel) : Prop where
  mounted_iff : panel.sidebar.mounted = true ↔ .mount panel.name ∈ life
  accounts : Accounts contentType panel.name life panel.sidebar.passes
  idle : panel.sidebar.passes = 0 → panel.sidebar.status = .valid ∧ panel.sidebar.verdict = none
  ran : 0 < panel.sidebar.passes ↔ ∃ upTo, LastPass contentType panel.name life upTo
  shows : ∀ upTo, LastPass contentType panel.name life upTo → panel.sidebar.Shows
    (first.afterAll (earlier ++ .openSidebar panel.name panel.sidebar.options :: upTo)).entry

-- The steps since a sidebar was opened tell which ones make it run a pass.
theorem Orderly.runs_iff {mounted : List Nat} {desk : Desk}
    (orderly : desk.Orderly contentType mounted) {panel : Panel} {life : List Step}
    (known : panel.sidebar.mounted = true ↔ .mount panel.name ∈ life) (step : Step) :
    desk.Runs panel step ↔ step.RunsPass contentType panel.name life := by
  cases step with
  | openSidebar name options => exact Iff.rfl
  | drop name => exact Iff.rfl
  | validate name => exact eq_comm
  | mount name =>
    have first : panel.sidebar.mounted = false ↔ .mount panel.name ∉ life := by
      rw [← known, Bool.not_eq_true]
    exact and_congr eq_comm first
  | set fieldId value => exact and_congr known (orderly.isSome_set?_iff fieldId value)

theorem tracked_opened (contentType : ContentType) (first : Desk) (earlier : List Step)
    (name : String) (number : Nat) (options : Options) :
    Tracked contentType first earlier [] ⟨name, number, { options }⟩ where
  mounted_iff := by simp
  accounts := .inl ⟨List.not_mem_nil, rfl⟩
  idle _ := ⟨rfl, rfl⟩
  ran := by simp [not_lastPass_nil]
  shows _ last := absurd last not_lastPass_nil

-- One more step, from the state that the run has reached.
theorem Tracked.append {first desk : Desk} {mounted : List Nat} {earlier life : List Step}
    {panel : Panel} (tracked : Tracked contentType first earlier life panel)
    (orderly : desk.Orderly contentType mounted)
    (reached : first.afterAll
      (earlier ++ .openSidebar panel.name panel.sidebar.options :: life) = desk)
    (step : Step) :
    Tracked contentType first earlier (life ++ [step])
      { panel with sidebar := desk.react step panel } := by
  have runs_iff := orderly.runs_iff tracked.mounted_iff step
  have mounted_iff : (desk.react step panel).mounted = true ↔
      .mount panel.name ∈ life ++ [step] := by
    rw [react_mounted, tracked.mounted_iff, List.mem_append, List.mem_singleton,
      eq_comm (a := step)]
  have next : first.afterAll
      (earlier ++ .openSidebar panel.name panel.sidebar.options :: (life ++ [step])) =
        desk.after step := by
    rw [← reached]
    simp [afterAll]
  rcases desk.react_cases step panel with ⟨runs, mounted, _, h⟩ | ⟨idle, _, h⟩
  · rw [runs_iff] at runs
    have passes : (desk.react step panel).passes = panel.sidebar.passes + 1 := by
      rw [h]
      exact Sidebar.pass_passes ..
    have shows : (desk.react step panel).Shows (desk.after step).entry := by
      rw [h]
      exact Sidebar.shows_pass ..
    refine ⟨mounted_iff, ?_, ?_, ?_, ?_⟩
    · simp only [passes]
      exact tracked.accounts.append_runsPass runs
    · simp [passes]
    · simp only [passes, Nat.succ_pos, true_iff]
      exact ⟨_, .now runs⟩
    · intro upTo last
      obtain rfl : upTo = life ++ [step] := by
        rcases lastPass_append_iff.mp last with ⟨_, same⟩ | ⟨idle, _⟩
        · exact same
        · exact absurd runs idle
      simp only [react_options, next]
      exact shows
  · rw [runs_iff] at idle
    refine ⟨mounted_iff, ?_, ?_, ?_, ?_⟩
    · simp only [h]
      exact tracked.accounts.append_idle idle
    · simp only [h]
      exact tracked.idle
    · simp only [h, tracked.ran]
      apply exists_congr
      intro upTo
      simp [lastPass_append_iff, idle]
    · intro upTo last
      rcases lastPass_append_iff.mp last with ⟨runs, _⟩ | ⟨_, last⟩
      · exact absurd runs idle
      · simp only [h]
        exact tracked.shows upTo last

-- A sidebar that was opened and is not gone is there, by induction on what happened since then.
theorem Lasts.exists_tracked {name : String} {life : List Step}
    (lasts : Lasts contentType name life) (values : Json.Members) (earlier : List Step)
    (options : Options) :
    ∃ panel ∈ ((start contentType values).afterAll
        (earlier ++ .openSidebar name options :: life)).panels,
      panel.name = name ∧ panel.sidebar.options = options ∧
        Tracked contentType (start contentType values) earlier life panel := by
  have orderly (steps : List Step) := (orderly_start contentType values).afterAll steps
  induction life using List.reverseRecOn with
  | nil =>
    rw [afterAll_append]
    exact ⟨_, (orderly earlier).mem_after_openSidebar lasts.sound name options, rfl, rfl,
      tracked_opened ..⟩
  | append_singleton life step ih =>
    obtain ⟨lasts, stays⟩ := lasts_append_singleton.mp lasts
    obtain ⟨panel, hp, rfl, rfl, tracked⟩ := ih lasts
    have next : earlier ++ .openSidebar panel.name panel.sidebar.options :: (life ++ [step]) =
        earlier ++ .openSidebar panel.name panel.sidebar.options :: life ++ [step] := by simp
    rw [next, afterAll_append]
    exact ⟨_, (orderly _).mem_after hp stays, rfl, react_options ..,
      tracked.append (orderly _) rfl _⟩

-- By induction from the right: a sidebar that is there was opened by the last step, or was there
-- before it and is not taken away.
theorem exists_lasts (contentType : ContentType) (values : Json.Members) (steps : List Step) :
    ∀ panel ∈ ((start contentType values).afterAll steps).panels, ∃ earlier life,
      steps = earlier ++ .openSidebar panel.name panel.sidebar.options :: life ∧
        Lasts contentType panel.name life := by
  induction steps using List.reverseRecOn with
  | nil =>
    intro panel hp
    exact absurd hp List.not_mem_nil
  | append_singleton steps step ih =>
    intro panel hp
    have orderly := (orderly_start contentType values).afterAll steps
    have sound : contentType.check = .ok () :=
      ((orderly_start contentType values).afterAll (steps ++ [step])).sound (List.ne_nil_of_mem hp)
    rw [afterAll_append] at hp
    rcases orderly.mem_panels_after hp with ⟨options, rfl, opened⟩ | ⟨old, hold, stays, rfl⟩
    · obtain ⟨name, number, sidebar⟩ := panel
      obtain rfl : sidebar = { options } := opened
      exact ⟨steps, [], rfl, sound, fun _ hs => absurd hs List.not_mem_nil⟩
    · obtain ⟨earlier, life, rfl, lasts⟩ := ih old hold
      exact ⟨earlier, life ++ [step], by simp, lasts_append_singleton.mpr ⟨lasts, stays⟩⟩

-- A sidebar that is there, with what it went through.
theorem exists_tracked (contentType : ContentType) (values : Json.Members) (steps : List Step) :
    ∀ panel ∈ ((start contentType values).afterAll steps).panels, ∃ earlier life,
      steps = earlier ++ .openSidebar panel.name panel.sidebar.options :: life ∧
        Lasts contentType panel.name life ∧
          Tracked contentType (start contentType values) earlier life panel := by
  intro panel hp
  obtain ⟨earlier, life, rfl, lasts⟩ := exists_lasts contentType values steps panel hp
  obtain ⟨other, ho, name, -, tracked⟩ :=
    lasts.exists_tracked values earlier panel.sidebar.options
  have names := ((orderly_start contentType values).afterAll
    (earlier ++ .openSidebar panel.name panel.sidebar.options :: life)).names
  obtain rfl := List.inj_on_of_nodup_map names ho hp name
  exact ⟨earlier, life, rfl, lasts, tracked⟩

-- Two sidebars under one name are not both there.
theorem Lasts.eq_of_opened {name : String} {options options' : Options}
    {earlier life earlier' life' : List Step} (lasts : Lasts contentType name life)
    (lasts' : Lasts contentType name life')
    (same : earlier ++ .openSidebar name options :: life =
      earlier' ++ .openSidebar name options' :: life') : earlier = earlier' := by
  rcases List.append_eq_append_iff.mp same with ⟨more, rfl, rest⟩ | ⟨more, rfl, rest⟩
  · cases more with
    | nil => exact (List.append_nil earlier).symm
    | cons step more =>
      cases rest
      exact (lasts.undisturbed (.openSidebar name options') (by simp) rfl).elim
  · cases more with
    | nil => exact List.append_nil earlier'
    | cons step more =>
      cases rest
      exact (lasts'.undisturbed (.openSidebar name options) (by simp) rfl).elim

-- The sidebar that the step at a place opens is mounted at some time, before it is dropped or
-- replaced.
def EverMounted (contentType : ContentType) (steps : List Step) (place : Nat) : Prop :=
  ∃ earlier name options life later,
    steps = earlier ++ .openSidebar name options :: (life ++ .mount name :: later) ∧
      Lasts contentType name life ∧ earlier.length = place

-- The sidebar that was opened at a place is mounted for the first time by the next step.
def FirstMounted (contentType : ContentType) (steps : List Step) (step : Step) (place : Nat) :
    Prop :=
  ∃ earlier name options life, steps = earlier ++ .openSidebar name options :: life ∧
    Lasts contentType name life ∧ .mount name ∉ life ∧ step = .mount name ∧ earlier.length = place

theorem everMounted_append_singleton {steps : List Step} {step : Step} {place : Nat} :
    EverMounted contentType (steps ++ [step]) place ↔
      EverMounted contentType steps place ∨ FirstMounted contentType steps step place := by
  constructor
  · rintro ⟨earlier, name, options, life, later, split, lasts, rfl⟩
    cases later using List.reverseRecOn with
    | nil =>
      have split : steps ++ [step] =
          earlier ++ .openSidebar name options :: life ++ [.mount name] := by
        simpa using split
      obtain ⟨rfl, same⟩ := List.append_inj' split rfl
      cases same
      by_cases again : .mount name ∈ life
      · obtain ⟨before, after, rfl⟩ := List.append_of_mem again
        have lasts : Lasts contentType name before :=
          ⟨lasts.sound, fun other ho => lasts.undisturbed other (List.mem_append_left _ ho)⟩
        exact .inl ⟨earlier, name, options, before, after, rfl, lasts, rfl⟩
      · exact .inr ⟨earlier, name, options, life, rfl, lasts, again, rfl, rfl⟩
    | append_singleton later last =>
      have split : steps ++ [step] =
          earlier ++ .openSidebar name options :: (life ++ .mount name :: later) ++ [last] := by
        simpa using split
      obtain ⟨rfl, -⟩ := List.append_inj' split rfl
      exact .inl ⟨earlier, name, options, life, later, rfl, lasts, rfl⟩
  · rintro (⟨earlier, name, options, life, later, rfl, lasts, rfl⟩ |
      ⟨earlier, name, options, life, rfl, lasts, -, rfl, rfl⟩)
    · exact ⟨earlier, name, options, life, later ++ [step], by simp, lasts, rfl⟩
    · exact ⟨earlier, name, options, life, [], by simp, lasts, rfl⟩

theorem FirstMounted.not_everMounted {steps : List Step} {step : Step} {place : Nat}
    (first : FirstMounted contentType steps step place) :
    ¬EverMounted contentType steps place := by
  rintro ⟨earlier', name', options', life', later, split, -, place'⟩
  obtain ⟨earlier, name, options, life, rfl, -, never, -, place⟩ := first
  obtain ⟨-, rest⟩ := List.append_inj split (place.trans place'.symm)
  cases rest
  exact never (by simp)

theorem FirstMounted.unique {steps : List Step} {step : Step} {place other : Nat}
    (h : FirstMounted contentType steps step place)
    (h' : FirstMounted contentType steps step other) : place = other := by
  obtain ⟨earlier, name, options, life, rfl, lasts, -, rfl, rfl⟩ := h
  obtain ⟨earlier', _, options', life', split, lasts', -, ⟨⟩, rfl⟩ := h'
  rw [lasts.eq_of_opened lasts' split]

-- A step mounts one sidebar for the first time, or none.
theorem length_newlyMounted (contentType : ContentType) (values : Json.Members)
    (steps : List Step) (step : Step) :
    let mounted := ((start contentType values).afterAll steps).newlyMounted step
    (mounted.length = 0 ∧ ∀ place, ¬FirstMounted contentType steps step place) ∨
      (mounted.length = 1 ∧ ∃ place, FirstMounted contentType steps step place) := by
  intro mounted
  have orderly := (orderly_start contentType values).afterAll steps
  by_cases first : ∃ place, FirstMounted contentType steps step place
  · obtain ⟨place, earlier, name, options, life, rfl, lasts, never, rfl, -⟩ := id first
    obtain ⟨panel, hp, rfl, rfl, tracked⟩ := lasts.exists_tracked values earlier options
    have unmounted : panel.sidebar.mounted = false := by
      rw [← Bool.not_eq_true, tracked.mounted_iff]
      exact never
    have new := (orderly.mem_newlyMounted hp).mpr ⟨rfl, unmounted⟩
    rcases newlyMounted_cases _ (.mount panel.name) with none | ⟨_, _, _, one⟩
    · rw [none] at new
      cases new
    · exact .inr ⟨congrArg List.length one, first⟩
  · refine .inl ⟨?_, not_exists.mp first⟩
    rcases newlyMounted_cases _ step with none | ⟨panel, hp, unmounted, one⟩
    · exact congrArg List.length none
    · have new : panel.number ∈ mounted := by
        rw [show mounted = [panel.number] from one]
        exact List.mem_singleton_self _
      obtain ⟨rfl, -⟩ := (orderly.mem_newlyMounted hp).mp new
      obtain ⟨earlier, life, split, lasts, tracked⟩ :=
        exists_tracked contentType values steps panel hp
      have never : .mount panel.name ∉ life := by
        rw [← tracked.mounted_iff, unmounted]
        exact Bool.false_ne_true
      exact absurd ⟨_, earlier, _, _, life, split, lasts, never, rfl, rfl⟩ first

-- The sidebars that were ever mounted are counted, by the places at which they were opened.
theorem exists_places (contentType : ContentType) (values : Json.Members) (steps : List Step) :
    ∃ places : List Nat, places.Nodup ∧
      (∀ place, place ∈ places ↔ EverMounted contentType steps place) ∧
        ((start contentType values).everMounted steps).length = places.length := by
  induction steps using List.reverseRecOn with
  | nil =>
    refine ⟨[], List.nodup_nil, fun place => ?_, rfl⟩
    simp [EverMounted]
  | append_singleton steps step ih =>
    obtain ⟨places, distinct, mem_places, counted⟩ := ih
    have longer : ((start contentType values).everMounted (steps ++ [step])).length =
        places.length + (((start contentType values).afterAll steps).newlyMounted step).length := by
      rw [everMounted_append, List.length_append, counted, everMounted, everMounted,
        List.append_nil]
    rcases length_newlyMounted contentType values steps step with
      ⟨none, never⟩ | ⟨one, place, first⟩
    · refine ⟨places, distinct, fun place => ?_, by rw [longer, none, Nat.add_zero]⟩
      rw [everMounted_append_singleton, mem_places, or_iff_left (never place)]
    · refine ⟨place :: places, ?_, fun other => ?_, by rw [longer, one, List.length_cons]⟩
      · rw [List.nodup_cons, mem_places]
        exact ⟨first.not_everMounted, distinct⟩
      · rw [everMounted_append_singleton, List.mem_cons, mem_places, or_comm]
        exact or_congr_right ⟨fun same => same ▸ first, fun other => other.unique first⟩

theorem length_watches (contentType : ContentType) (mounted : List Nat) :
    (mounted.flatMap fun number => contentType.fieldIds.map fun id => (id, number)).length =
      contentType.fields.length * mounted.length := by
  induction mounted with
  | nil => rfl
  | cons number mounted ih =>
    rw [List.flatMap_cons, List.length_append, ih, List.length_map, ContentType.fieldIds,
      List.length_map, List.length_cons, Nat.mul_succ, Nat.add_comm]

theorem Tracked.exists_shows {first : Desk} {earlier life : List Step} {panel : Panel}
    (tracked : Tracked contentType first earlier life panel) (h : 0 < panel.sidebar.passes) :
    ∃ upTo, LastPass contentType panel.name life upTo ∧ panel.sidebar.Shows (first.afterAll
      (earlier ++ .openSidebar panel.name panel.sidebar.options :: upTo)).entry := by
  obtain ⟨upTo, last⟩ := tracked.ran.mp h
  exact ⟨upTo, last, tracked.shows upTo last⟩

theorem Tracked.status_iff {first : Desk} {earlier life : List Step} {panel : Panel}
    (tracked : Tracked contentType first earlier life panel) :
    panel.sidebar.status = .valid ↔ panel.sidebar.passes = 0 ∨
      ∃ verdict, panel.sidebar.verdict = some verdict ∧ verdict.valid = true := by
  by_cases none : panel.sidebar.passes = 0
  · simp [none, tracked.idle none]
  · obtain ⟨upTo, _, shows⟩ := tracked.exists_shows (Nat.pos_of_ne_zero none)
    simp only [none, false_or, shows.status_eq_valid_iff, shows.verdict_eq_some_iff]

theorem Tracked.verdict_iff {first : Desk} {earlier life : List Step} {panel : Panel}
    (tracked : Tracked contentType first earlier life panel) :
    (∃ verdict, panel.sidebar.verdict = some verdict) ↔ 0 < panel.sidebar.passes ∧
      ∃ upTo verdict, LastPass contentType panel.name life upTo ∧
        Entry.evaluate panel.sidebar.options (first.afterAll
          (earlier ++ .openSidebar panel.name panel.sidebar.options :: upTo)).entry =
            .ok verdict := by
  constructor
  · rintro ⟨verdict, hverdict⟩
    have ran : 0 < panel.sidebar.passes := by
      apply Nat.pos_of_ne_zero
      intro none
      rw [(tracked.idle none).2] at hverdict
      cases hverdict
    obtain ⟨upTo, last, shows⟩ := tracked.exists_shows ran
    exact ⟨ran, upTo, verdict, last, shows.verdict_eq_some_iff.mp hverdict⟩
  · rintro ⟨_, upTo, verdict, last, found⟩
    exact ⟨verdict, (tracked.shows upTo last).verdict_eq_some_iff.mpr found⟩

-- At every moment of a run the sidebars that are there are those that were opened and not dropped
-- or replaced since. The steps since then account for each: whether it is mounted, how many passes
-- it ran, and its verdict and status, which are those of its latest pass. Every sidebar that was
-- ever mounted, whether or not it is still there, holds one watch on each field, and no watch is
-- ever given up. Mounting, validating or dropping a sidebar touches neither another one nor a
-- value.
theorem run_bookkeeping (contentType : ContentType) (values : Json.Members) (steps : List Step) :
    let first := start contentType values
    let desk := first.afterAll steps
    (∀ earlier name options life, steps = earlier ++ .openSidebar name options :: life →
      Lasts contentType name life → ∃ sidebar, desk.sidebar? name = some sidebar ∧
        sidebar.options = options ∧
        (sidebar.mounted = true ↔ .mount name ∈ life) ∧
        Accounts contentType name life sidebar.passes ∧
        (sidebar.status = .valid ↔ sidebar.passes = 0 ∨
          ∃ verdict, sidebar.verdict = some verdict ∧ verdict.valid = true) ∧
        ((∃ verdict, sidebar.verdict = some verdict) ↔ 0 < sidebar.passes ∧
          ∃ upTo verdict, LastPass contentType name life upTo ∧
            Entry.evaluate options (first.afterAll
              (earlier ++ .openSidebar name options :: upTo)).entry = .ok verdict)) ∧
    (∀ name, (∃ sidebar, desk.sidebar? name = some sidebar) →
      ∃ earlier options life, steps = earlier ++ .openSidebar name options :: life ∧
        Lasts contentType name life) ∧
    (∃ places : List Nat, places.Nodup ∧
      (∀ place, place ∈ places ↔ EverMounted contentType steps place) ∧
      desk.watches.length = contentType.fields.length * places.length) ∧
    (∀ later, desk.watches.length ≤ (desk.afterAll later).watches.length) ∧
    (∀ fieldId value, (desk.set? fieldId value).isSome = true ↔ fieldId ∈ contentType.fieldIds) ∧
    ∀ name step, step = .mount name ∨ step = .validate name ∨ step = .drop name →
      (desk.after step).entry = desk.entry ∧
      (desk.after step).panels.filter (·.name != name) =
        desk.panels.filter (·.name != name) := by
  intro first desk
  have orderly := (orderly_start contentType values).afterAll steps
  refine ⟨?_, ?_, ?_, ?_, orderly.isSome_set?_iff, fun name step => orderly.others_untouched⟩
  · rintro earlier name options life rfl lasts
    obtain ⟨panel, hp, rfl, rfl, tracked⟩ := lasts.exists_tracked values earlier options
    have found : desk.sidebar? panel.name = some panel.sidebar := by
      rw [sidebar?, orderly.panel?_of_mem hp, Option.map_some]
    exact ⟨panel.sidebar, found, rfl, tracked.mounted_iff, tracked.accounts, tracked.status_iff,
      tracked.verdict_iff⟩
  · rintro name ⟨sidebar, found⟩
    obtain ⟨panel, hpanel, -⟩ := Option.map_eq_some_iff.mp found
    obtain ⟨hp, rfl⟩ := panel?_eq_some hpanel
    obtain ⟨earlier, life, split, lasts⟩ := exists_lasts contentType values steps panel hp
    exact ⟨earlier, _, life, split, lasts⟩
  · obtain ⟨places, distinct, mem_places, counted⟩ := exists_places contentType values steps
    refine ⟨places, distinct, mem_places, ?_⟩
    rw [orderly.watches, ← counted]
    exact length_watches contentType _
  · intro later
    have more := (orderly.afterAll later).watches
    rw [List.flatMap_append, ← orderly.watches] at more
    rw [more, List.length_append]
    exact Nat.le_add_right _ _

-- The left sidebar and the first right one are gone, but still hold their watches.
theorem run_bookkeeping_replacement :
    let steps := replacement ++ [.validate "right"]
    let life : List Step :=
      [.mount "right", .mount "right", .set "title" .null, .validate "right"]
    let desk := (start titled []).afterAll steps
    steps = replacement.take 7 ++ .openSidebar "right" {} :: life ∧ Lasts titled "right" life ∧
      (∃ sidebar, desk.sidebar? "right" = some sidebar ∧ sidebar.mounted = true ∧
        Accounts titled "right" life sidebar.passes ∧ sidebar.passes = 3) ∧
      (∃ places : List Nat, places.Nodup ∧ 0 ∈ places ∧ 2 ∈ places ∧ 7 ∈ places ∧
        desk.watches.length = places.length) ∧
      (desk.after (.drop "right")).entry = desk.entry := by
  intro steps life desk
  have split : steps = replacement.take 7 ++ .openSidebar "right" {} :: life := rfl
  have lasts : Lasts titled "right" life := ⟨rfl, by simp [life, Step.Ends]⟩
  have passes : (desk.sidebar? "right").map (·.passes) = some 3 := by decide +kernel
  have briefly (name : String) : Lasts titled name [] := ⟨rfl, List.forall_mem_nil _⟩
  obtain ⟨live, -, counted, -, -, untouched⟩ := run_bookkeeping titled [] steps
  obtain ⟨sidebar, found, -, mounted, accounts, -⟩ := live _ _ _ _ split lasts
  obtain ⟨places, distinct, mem_places, watches⟩ := counted
  have left : EverMounted titled steps 0 := ⟨[], "left", {}, [], _, rfl, briefly "left", rfl⟩
  have right : EverMounted titled steps 2 :=
    ⟨replacement.take 2, "right", {}, [], _, rfl, briefly "right", rfl⟩
  have again : EverMounted titled steps 7 :=
    ⟨replacement.take 7, "right", {}, [], _, rfl, briefly "right", rfl⟩
  rw [found, Option.map_some, Option.some.injEq] at passes
  refine ⟨split, lasts, ⟨sidebar, found, mounted.mpr (by simp [life]), accounts, passes⟩, ?_,
    (untouched "right" _ (.inr (.inr rfl))).1⟩
  refine ⟨places, distinct, (mem_places 0).mpr left, (mem_places 2).mpr right,
    (mem_places 7).mpr again, ?_⟩
  rw [watches, titled, List.length_singleton, Nat.one_mul]

end Desk

end Vetting
