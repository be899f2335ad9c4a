import Vetting.Proofs.Content.Ids
import Vetting.Proofs.Sidebar.Freshness
import Vetting.Sidebar.Replay

namespace Vetting

namespace Replay

variable {options : Options} {contentType : ContentType} {values : Json.Members}

-- The value that a change gives to its field.
def member (change : Change) : String × Json := (change.field, change.value)

-- A desk after some changes. Its one sidebar watches every field once, has run a pass at the start
-- and one for each change, and shows the entry as it is now.
structure Follows (options : Options) (contentType : ContentType) (values : Json.Members)
    (done : List Change) (desk : Desk) : Prop where
  entry : desk.entry = .ofValues contentType (values ++ done.map member)
  watches : desk.watches = contentType.fieldIds.map fun id => (id, 0)
  panel : ∃ sidebar : Sidebar, desk.panels = [⟨sidebarName, 0, sidebar⟩] ∧
    sidebar.options = options ∧ sidebar.passes = done.length + 1 ∧ sidebar.Shows desk.entry

-- A field is watched once, so a change of it sets off one pass.
theorem count_watches {ids : List String} (distinct : ids.Nodup) {id : String} (hid : id ∈ ids) :
    (((ids.map fun id => (id, 0)).filter (·.1 == id)).map (·.2)).count 0 = 1 := by
  have once := List.count_eq_one_of_mem distinct hid
  rw [List.count_eq_length_filter] at once
  simp [List.filter_map, Function.comp_def, once]

theorem Follows.set? {done : List Change} {desk : Desk}
    (follows : Follows options contentType values done desk)
    (distinct : contentType.fieldIds.Nodup) {change : Change}
    (declared : change.field ∈ contentType.fieldIds) :
    ∃ next, desk.set? change.field change.value = some next ∧
      Follows options contentType values (done ++ [change]) next := by
  have complete : desk.entry.Complete := follows.entry ▸ Entry.complete_ofValues _ _
  have known : change.field ∈ desk.entry.contentType.fieldIds := by
    rwa [follows.entry, Entry.ofValues_contentType]
  obtain ⟨entry, hentry⟩ := complete.exists_set? known change.value
  obtain ⟨next, hnext⟩ : ∃ next, desk.set? change.field change.value = some next := by
    unfold Desk.set?
    rw [hentry]
    exact ⟨_, rfl⟩
  obtain ⟨entry', hentry', rfl⟩ := Desk.set?_eq_some hnext
  obtain rfl : entry = entry' := Option.some.inj (hentry.symm.trans hentry')
  obtain ⟨sidebar, hpanels, hoptions, hpasses, _⟩ := follows.panel
  refine ⟨_, hnext, ?_, follows.watches, sidebar.pass entry, ?_, ?_, ?_, ?_⟩
  · rw [follows.entry, Entry.ofValues_eq_setDeclared] at hentry
    rw [List.map_append, List.map_singleton, ← List.append_assoc, Entry.ofValues_eq_setDeclared,
      Entry.setDeclared_append_singleton]
    exact (congrArg (Option.getD · _) hentry).symm
  · rw [hpanels, follows.watches, List.map_singleton, count_watches distinct declared]
    rfl
  · rw [Sidebar.pass_options, hoptions]
  · rw [Sidebar.pass_passes, hpasses, List.length_append, List.length_singleton]
  · exact Sidebar.shows_pass sidebar entry

theorem Follows.statusOf_eq_valid_iff {done : List Change} {desk : Desk}
    (follows : Follows options contentType values done desk) :
    statusOf desk = .valid ↔
      ∃ verdict, desk.entry.evaluate options = .ok verdict ∧ verdict.valid = true := by
  obtain ⟨sidebar, hpanels, rfl, _, shows⟩ := follows.panel
  rw [← shows.status_eq_valid_iff]
  simp [statusOf, Desk.sidebar?, Desk.panel?, hpanels]

theorem Follows.passes {done : List Change} {desk : Desk}
    (follows : Follows options contentType values done desk) :
    (desk.sidebar? sidebarName).map (·.passes) = some (done.length + 1) := by
  obtain ⟨sidebar, hpanels, _, hpasses, _⟩ := follows.panel
  simp [Desk.sidebar?, Desk.panel?, hpanels, hpasses]

-- A replay that goes on with more changes.
def goOn (replay : Replay) (changes : List Change) : Replay :=
  let later := follow replay.notes.length replay.desk changes
  { later with notes := replay.notes ++ later.notes }

-- Without an unknown field every change is noted.
theorem length_notes_follow {number : Nat} {desk : Desk} {changes : List Change}
    (h : (follow number desk changes).stopped = none) :
    (follow number desk changes).notes.length = changes.length := by
  induction changes generalizing number desk with
  | nil => rfl
  | cons change rest ih =>
    cases hs : desk.set? change.field change.value with
    | none => simp [follow, hs] at h
    | some next =>
      simp only [follow, hs] at h ⊢
      rw [List.length_cons, ih h, List.length_cons]

-- What follows on some changes does not depend on what comes after them.
theorem follow_append {number : Nat} {desk : Desk} {before : List Change} (after : List Change)
    (h : (follow number desk before).stopped = none) :
    follow number desk (before ++ after) =
      let first := follow number desk before
      let later := follow (number + before.length) first.desk after
      { later with notes := first.notes ++ later.notes } := by
  induction before generalizing number desk with
  | nil => rfl
  | cons change rest ih =>
    cases hs : desk.set? change.field change.value with
    | none => simp [follow, hs] at h
    | some next =>
      simp only [follow, hs] at h
      simp only [List.cons_append, follow, hs, ih h, List.length_cons, Nat.add_right_comm,
        Nat.add_assoc]

theorem goOn_append {replay : Replay} {before : List Change} (after : List Change)
    (h : (replay.goOn before).stopped = none) :
    replay.goOn (before ++ after) = (replay.goOn before).goOn after := by
  have length := length_notes_follow h
  unfold goOn
  rw [follow_append after h]
  simp [length, List.append_assoc]

-- A replay goes on from its first pass.
theorem run_eq_goOn {entry : Entry} {first : Replay} (h : run options entry [] = .ok first)
    (changes : List Change) : run options entry changes = .ok (first.goOn changes) := by
  obtain ⟨opened, hopened, h⟩ := Outcome.bind_eq_ok.mp h
  cases h
  unfold run
  rw [hopened]
  rfl

-- A replay that made all of some changes, and took its last note after the last of them.
structure Faithful (options : Options) (contentType : ContentType) (values : Json.Members)
    (done : List Change) (replay : Replay) : Prop where
  stopped : replay.stopped = none
  follows : Follows options contentType values done replay.desk
  length_notes : replay.notes.length = done.length + 1
  last_note : replay.notes[done.length]? =
    some ⟨done.getLast?.map fun change => (done.length, change.field), replay.status⟩

-- The desk after the first pass of a replay.
def firstDesk (options : Options) (entry : Entry) : Desk where
  entry
  panels := [⟨sidebarName, 0, Sidebar.mount { options } entry⟩]
  opened := 1
  watches := entry.contentType.fieldIds.map fun id => (id, 0)

theorem run_nil {entry : Entry} (sound : entry.contentType.check = .ok ()) :
    run options entry [] =
      .ok { notes := [⟨none, statusOf (firstDesk options entry)⟩]
            desk := firstDesk options entry } := by
  unfold run Desk.openSidebar
  rw [sound]
  rfl

theorem faithful_first (options : Options) (contentType : ContentType) (values : Json.Members) :
    let desk := firstDesk options (.ofValues contentType values)
    Faithful options contentType values [] { notes := [⟨none, statusOf desk⟩], desk } where
  stopped := rfl
  length_notes := rfl
  last_note := rfl
  follows := {
    entry := by rw [List.map_nil, List.append_nil]; rfl
    watches := by rw [firstDesk, Entry.ofValues_contentType]
    panel := ⟨_, rfl, Sidebar.pass_options .., Sidebar.pass_passes .., Sidebar.shows_pass ..⟩ }

theorem Faithful.goOn {done : List Change} {replay : Replay}
    (faithful : Faithful options contentType values done replay)
    (distinct : contentType.fieldIds.Nodup) {change : Change}
    (declared : change.field ∈ contentType.fieldIds) :
    Faithful options contentType values (done ++ [change]) (replay.goOn [change]) := by
  obtain ⟨next, hnext, follows⟩ := faithful.follows.set? distinct declared
  have step : replay.goOn [change] =
      { notes := replay.notes ++ [⟨some (replay.notes.length, change.field), statusOf next⟩]
        desk := next } := by
    simp [Replay.goOn, follow, hnext]
  rw [step]
  refine ⟨rfl, follows, ?_, ?_⟩
  · simp [faithful.length_notes]
  · simp [← faithful.length_notes, status]

-- By induction from the right, since the last note is about the last change.
theorem Faithful.goOn_all {first : Replay}
    (faithful : Faithful options contentType values [] first)
    (distinct : contentType.fieldIds.Nodup) {changes : List Change}
    (declared : ∀ change ∈ changes, change.field ∈ contentType.fieldIds) :
    Faithful options contentType values changes (first.goOn changes) := by
  induction changes using List.reverseRecOn with
  | nil =>
    have same : first.goOn [] = first := by
      simp [Replay.goOn, follow, ← faithful.stopped]
    rwa [same]
  | append_singleton changes change ih =>
    have before := ih fun change hc => declared change (List.mem_append_left _ hc)
    rw [goOn_append _ before.stopped]
    exact before.goOn distinct (declared change (by simp))

-- All replays of an entry go on from one first pass, and those of changes to declared fields make
-- all their changes.
theorem exists_first (options : Options) (values : Json.Members)
    (sound : contentType.check = .ok ()) :
    ∃ first : Replay, ∀ changes,
      run options (.ofValues contentType values) changes = .ok (first.goOn changes) ∧
      ((∀ change ∈ changes, change.field ∈ contentType.fieldIds) →
        Faithful options contentType values changes (first.goOn changes)) := by
  have start : run options (.ofValues contentType values) [] = .ok _ :=
    run_nil (by rwa [Entry.ofValues_contentType])
  refine ⟨_, fun changes => ⟨run_eq_goOn start changes, fun declared => ?_⟩⟩
  have faithful := faithful_first options contentType values
  exact faithful.goOn_all (ContentType.nodup_of_check sound) declared

end Replay
end Vetting
