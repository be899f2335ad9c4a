import Vetting.Entry.Listener
import Vetting.Proofs.Lists

namespace Vetting.ListenedEntry

variable {state final : ListenedEntry} {task : Task} {tasks left : List Task} {outcome : Step}

-- What a task may come to. A called listener may do any actions whatever, so that it may also
-- decide on its way, by the values that it reads (which changes nothing) and by what the listeners
-- remember (which may change with the call). The fields that are listened to stay the same.
inductive Takes (state : ListenedEntry) : Task → Step → Prop where
  | act (action : Action) : Takes state (.act action) (state.step (.act action))
  | call {index : Nat} {listener : Listener} {listeners : List Listener}
      (found : state.listeners[index]? = some listener)
      (kept : listeners.map (·.fieldId) = state.listeners.map (·.fieldId))
      (actions : List Action) :
      Takes state (.call index)
        { next := { state with listeners }
          tasks := actions.map .act
          events := [.called index listener.tag listener.fieldId
            ((state.entry.value? listener.fieldId).getD .null)] }

-- All that a step can be: a change that is refused, a change, an addition or a call.
theorem Takes.cases (takes : Takes state task outcome) :
    (∃ fieldId value, task = .act (.set fieldId value) ∧
      state.entry.set? fieldId value = none ∧ outcome = { next := state }) ∨
    (∃ fieldId value entry, task = .act (.set fieldId value) ∧
      state.entry.set? fieldId value = some entry ∧
      outcome =
        { next := { state with entry }
          tasks := (state.listenersOf fieldId).map .call
          events := [.wrote fieldId value] }) ∨
    (∃ fieldId tag budget actions, task = .act (.listen fieldId tag budget actions) ∧
      outcome =
        { next := { state with listeners := state.listeners ++ [⟨fieldId, tag, budget, actions⟩] }
          events := [.added ⟨fieldId, tag, budget, actions⟩] }) ∨
    ∃ index listener listeners, ∃ actions : List Action, task = .call index ∧
      state.listeners[index]? = some listener ∧
      listeners.map (·.fieldId) = state.listeners.map (·.fieldId) ∧
      outcome =
        { next := { state with listeners }
          tasks := actions.map .act
          events := [.called index listener.tag listener.fieldId
            ((state.entry.value? listener.fieldId).getD .null)] } := by
  cases takes with
  | act action =>
    cases action with
    | set fieldId value =>
      simp only [step, set]
      cases h : state.entry.set? fieldId value with
      | none => exact .inl ⟨fieldId, value, rfl, h, rfl⟩
      | some entry => exact .inr (.inl ⟨fieldId, value, entry, rfl, h, rfl⟩)
    | listen fieldId tag budget actions =>
      exact .inr (.inr (.inl ⟨fieldId, tag, budget, actions, rfl, rfl⟩))
  | call found kept actions =>
    exact .inr (.inr (.inr ⟨_, _, _, actions, rfl, found, kept, rfl⟩))

-- A step of a run: the state before it, the task, and what came of it.
structure Moment where
  state : ListenedEntry
  task : Task
  outcome : Step

-- From a state with tasks to do to a later one, step by step. What a task sets off is done before
-- the tasks behind it.
inductive Reaches :
    ListenedEntry → List Task → List Moment → ListenedEntry → List Task → Prop where
  | refl (state : ListenedEntry) (tasks : List Task) : Reaches state tasks [] state tasks
  | step {state final : ListenedEntry} {task : Task} {outcome : Step} {rest left : List Task}
      {moments : List Moment} (takes : Takes state task outcome)
      (later : Reaches outcome.next (outcome.tasks ++ rest) moments final left) :
      Reaches state (task :: rest) (⟨state, task, outcome⟩ :: moments) final left

-- What happens in a run.
def events (moments : List Moment) : List Event := moments.flatMap (·.outcome.events)

@[simp] theorem events_nil : events [] = [] := rfl

@[simp] theorem events_cons (state : ListenedEntry) (task : Task) (outcome : Step)
    (moments : List Moment) :
    events (⟨state, task, outcome⟩ :: moments) = outcome.events ++ events moments := rfl

-- Every step of a run is one that its task may take, in a state that the run reaches.
theorem Reaches.at_moment {before after : List Moment} {moment : Moment}
    (run : Reaches state tasks (before ++ moment :: after) final left) :
    ∃ rest, Reaches state tasks before moment.state (moment.task :: rest) ∧
      Takes moment.state moment.task moment.outcome ∧
      Reaches moment.outcome.next (moment.outcome.tasks ++ rest) after final left := by
  induction before generalizing state tasks with
  | nil =>
    cases run with
    | step takes later => exact ⟨_, .refl _ _, takes, later⟩
  | cons first before ih =>
    cases run with
    | step takes later =>
      obtain ⟨rest, reached, here, goesOn⟩ := ih later
      exact ⟨rest, .step takes reached, here, goesOn⟩

-- The fields that are listened to, one for each listener in the order in which they were added.
def fields (state : ListenedEntry) : List String := state.listeners.map (·.fieldId)

def addedField? : Event → Option String
  | .added listener => some listener.fieldId
  | .wrote .. | .called .. => none

-- The fields that are listened to after some events.
def fieldsAfter (fields : List String) (log : List Event) : List String :=
  fields ++ log.filterMap addedField?

@[simp] theorem fieldsAfter_nil (fields : List String) : fieldsAfter fields [] = fields :=
  List.append_nil fields

theorem fieldsAfter_append (fields : List String) (log later : List Event) :
    fieldsAfter fields (log ++ later) = fieldsAfter (fieldsAfter fields log) later := by
  simp [fieldsAfter]

theorem Takes.fields_next (takes : Takes state task outcome) :
    outcome.next.fields = fieldsAfter state.fields outcome.events := by
  cases takes with
  | act action =>
    cases action with
    | set fieldId value =>
      simp only [step, set]
      split
      · simp
      · simp [fields, fieldsAfter, addedField?]
    | listen fieldId tag budget actions => simp [step, listen, fields, fieldsAfter, addedField?]
  | call found kept actions =>
    simpa [fields, fieldsAfter, List.filterMap_cons, addedField?] using kept

-- Listeners are only added, and each addition is among the events.
theorem Reaches.fields_final {moments : List Moment}
    (run : Reaches state tasks moments final left) :
    final.fields = fieldsAfter state.fields (events moments) := by
  induction run with
  | refl => exact (fieldsAfter_nil _).symm
  | step takes later ih => rw [ih, takes.fields_next, events_cons, fieldsAfter_append]

-- The calls among some tasks are of listeners that there are.
def Known (state : ListenedEntry) (tasks : List Task) : Prop :=
  ∀ index, .call index ∈ tasks → index < state.fields.length

theorem mem_listenersOf {fieldId : String} {index : Nat} :
    index ∈ state.listenersOf fieldId ↔ state.fields[index]? = some fieldId := by
  unfold listenersOf fields
  rw [mem_positions fun listener : Listener => listener.fieldId == fieldId]
  simp

theorem Takes.known (takes : Takes state task outcome) {rest : List Task}
    (known : state.Known (task :: rest)) : outcome.next.Known (outcome.tasks ++ rest) := by
  intro index hindex
  have longer : state.fields.length ≤ outcome.next.fields.length := by
    rw [takes.fields_next, fieldsAfter, List.length_append]
    omega
  apply Nat.lt_of_lt_of_le _ longer
  rcases List.mem_append.mp hindex with new | old
  · cases takes with
    | act action =>
      cases action with
      | set fieldId value =>
        simp only [step, set] at new
        split at new
        · cases new
        · simp only [List.mem_map, Task.call.injEq, exists_eq_right] at new
          exact (List.getElem?_eq_some_iff.mp (mem_listenersOf.mp new)).1
      | listen fieldId tag budget actions => cases new
    | call found kept actions => simp at new
  · exact known index (List.mem_cons_of_mem _ old)

theorem fields_set {index : Nat} {listener other : Listener} {listeners : List Listener}
    (found : listeners[index]? = some listener) (same : other.fieldId = listener.fieldId) :
    (listeners.set index other).map (·.fieldId) = listeners.map (·.fieldId) := by
  obtain ⟨inside, rfl⟩ := List.getElem?_eq_some_iff.mp found
  rw [List.map_set, same]
  have inside' : index < (listeners.map (·.fieldId)).length := by simpa
  have kept := List.set_getElem_self inside'
  simpa using kept

-- Listeners that act the same way a limited number of times take steps like any others.
theorem takes_step (known : state.Known (task :: tasks)) : Takes state task (state.step task) := by
  cases task with
  | act action => exact .act action
  | call index =>
    have inside := known index List.mem_cons_self
    rw [fields, List.length_map] at inside
    have found := List.getElem?_eq_getElem inside
    simp only [step, call, found]
    split
    · exact .call found rfl []
    · exact .call found (fields_set found (by rfl)) _

theorem reaches_run (known : state.Known tasks) :
    ∃ moments, state.Reaches tasks moments (state.run tasks).1 [] ∧
      (state.run tasks).2 = events moments := by
  induction state, tasks using run.induct with
  | case1 state =>
    rw [run]
    exact ⟨[], .refl _ _, rfl⟩
  | case2 state task rest done _ _ _ ih =>
    have takes : Takes state task done := takes_step known
    obtain ⟨moments, later, happened⟩ := ih (takes.known known)
    refine ⟨⟨state, task, done⟩ :: moments, ?_⟩
    rw [run]
    refine ⟨.step takes later, ?_⟩
    rw [events_cons, ← happened]

theorem reaches_act (state : ListenedEntry) (action : Action) :
    ∃ moments, state.Reaches [.act action] moments (state.act action).1 [] ∧
      (state.act action).2 = events moments := by
  apply reaches_run
  intro index hindex
  simp at hindex

end Vetting.ListenedEntry
