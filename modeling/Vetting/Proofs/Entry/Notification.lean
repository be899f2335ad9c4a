import Vetting.Proofs.Entry.Listening

namespace Vetting.ListenedEntry

variable {state final : ListenedEntry} {task : Task} {tasks left : List Task} {outcome : Step}
  {moments : List Moment} {index : Nat} {fieldId : String} {value : Json}

def isCallOf (index : Nat) : Event → Bool
  | .called listener _ _ _ => listener == index
  | .wrote .. | .added _ => false

def isWriteOf (fieldId : String) : Event → Bool
  | .wrote written _ => fieldId == written
  | .added _ | .called .. => false

def Task.isCallOf (index : Nat) : Task → Bool
  | .call listener => listener == index
  | .act _ => false

-- The places of the listeners of a field, in the order in which they were added.
structure Addressees (fields : List String) (fieldId : String) (places : List Nat) : Prop where
  ordered : places.Pairwise (· < ·)
  mem_iff : ∀ index, index ∈ places ↔ fields[index]? = some fieldId

theorem addressees_listenersOf (state : ListenedEntry) (fieldId : String) :
    Addressees state.fields fieldId (state.listenersOf fieldId) where
  ordered := positions_increasing (fun listener : Listener => listener.fieldId == fieldId) 0 _
  mem_iff _ := mem_listenersOf

theorem Addressees.count {fields : List String} {places : List Nat}
    (addressees : Addressees fields fieldId places) (index : Nat) :
    places.count index = if fields[index]? = some fieldId then 1 else 0 := by
  have distinct : places.Nodup := addressees.ordered.imp Nat.ne_of_lt
  rw [distinct.count]
  simp only [addressees.mem_iff]

-- How many writes are to the field of the listener at a place, counted from when there is one.
-- Calls are counted against the writes for which they are due.
def due (index : Nat) (fields : List String) : List Event → Nat
  | [] => 0
  | .wrote fieldId _ :: log =>
    (if fields[index]? = some fieldId then 1 else 0) + due index fields log
  | .added listener :: log => due index (fields ++ [listener.fieldId]) log
  | .called .. :: log => due index fields log

theorem due_append (index : Nat) (fields : List String) (log later : List Event) :
    due index fields (log ++ later) =
      due index fields log + due index (fieldsAfter fields log) later := by
  induction log generalizing fields with
  | nil => simp [due]
  | cons event log ih =>
    have hfields :
        fieldsAfter fields (event :: log) = fieldsAfter (fieldsAfter fields [event]) log :=
      fieldsAfter_append fields [event] log
    rw [hfields]
    cases event with
    | wrote written value =>
      have same : fieldsAfter fields [.wrote written value] = fields := List.append_nil _
      simp only [List.cons_append, due, ih, same]
      omega
    | added listener => exact ih (fields ++ [listener.fieldId])
    | called listener tag fieldId value =>
      have same : fieldsAfter fields [.called listener tag fieldId value] = fields :=
        List.append_nil _
      simp only [List.cons_append, due, ih, same]

-- A listener that is there stays at its place.
theorem due_of_listener {fields : List String} (there : fields[index]? = some fieldId)
    (log : List Event) : due index fields log = log.countP (isWriteOf fieldId) := by
  induction log generalizing fields with
  | nil => rfl
  | cons event log ih =>
    cases event with
    | wrote written value =>
      rw [due, ih there, List.countP_cons, there, Nat.add_comm]
      simp [isWriteOf]
    | added listener =>
      have inside := (List.getElem?_eq_some_iff.mp there).1
      have still : (fields ++ [listener.fieldId])[index]? = some fieldId := by
        rwa [List.getElem?_append_left inside]
      rw [due, ih still, List.countP_cons]
      simp [isWriteOf]
    | called listener tag fieldId value =>
      rw [due, ih there, List.countP_cons]
      simp [isWriteOf]

-- Nothing is due at a place that is still empty.
theorem due_eq_zero {fields : List String} {log : List Event}
    (empty : (fieldsAfter fields log).length ≤ index) : due index fields log = 0 := by
  induction log generalizing fields with
  | nil => rfl
  | cons event log ih =>
    have longer : fields.length ≤ (fieldsAfter fields (event :: log)).length := by
      rw [fieldsAfter, List.length_append]
      omega
    have none : fields[index]? = none := List.getElem?_eq_none (by omega)
    cases event with
    | wrote written value => simpa [due, none] using ih empty
    | added listener =>
      have later := fieldsAfter_append fields [.added listener] log
      exact ih (later ▸ empty)
    | called listener tag fieldId value => exact ih empty

theorem countP_isCallOf_calls (index : Nat) (places : List Nat) :
    (places.map .call).countP (Task.isCallOf index) = places.count index := by
  rw [List.countP_map]
  rfl

theorem countP_isCallOf_acts (index : Nat) (actions : List Action) :
    (actions.map .act).countP (Task.isCallOf index) = 0 := by
  simp [Task.isCallOf]

-- A step makes the call that it is for, and sets off one for each listener of a field it writes.
theorem Takes.balance (takes : Takes state task outcome) (index : Nat) :
    outcome.events.countP (isCallOf index) + outcome.tasks.countP (Task.isCallOf index) =
      [task].countP (Task.isCallOf index) + due index state.fields outcome.events := by
  cases takes with
  | act action =>
    cases action with
    | set fieldId value =>
      simp only [step, set]
      split
      · simp [due, Task.isCallOf]
      · rw [countP_isCallOf_calls, (addressees_listenersOf state fieldId).count]
        simp [due, isCallOf, Task.isCallOf]
    | listen fieldId tag budget actions => simp [step, listen, due, isCallOf, Task.isCallOf]
  | call found kept actions =>
    rw [countP_isCallOf_acts]
    simp [due, isCallOf, Task.isCallOf]

-- The calls that a run has made and has still to make are those that it was to make, and those that
-- came to be due.
theorem Reaches.balance (run : Reaches state tasks moments final left) (index : Nat) :
    (events moments).countP (isCallOf index) + left.countP (Task.isCallOf index) =
      tasks.countP (Task.isCallOf index) + due index state.fields (events moments) := by
  induction run with
  | refl => simp [due]
  | @step state final task outcome rest left moments takes later ih =>
    have here := takes.balance index
    rw [takes.fields_next, List.countP_append] at ih
    rw [events_cons, List.countP_append, due_append, ← List.singleton_append, List.countP_append]
    omega

mutual

-- All that is done for a task: its own step, and then all that is done for what it sets off, before
-- the next task.
inductive Done : Task → List Moment → Prop where
  | mk {state : ListenedEntry} {task : Task} {outcome : Step} {inner : List Moment}
      (all : AllDone outcome.tasks inner) : Done task (⟨state, task, outcome⟩ :: inner)

-- All that is done for some tasks, one after the other.
inductive AllDone : List Task → List Moment → Prop where
  | nil : AllDone [] []
  | cons {task : Task} {tasks : List Task} {first later : List Moment} (done : Done task first)
      (others : AllDone tasks later) : AllDone (task :: tasks) (first ++ later)

end

theorem AllDone.of_append {others : List Task} (all : AllDone (tasks ++ others) moments) :
    ∃ first later, moments = first ++ later ∧ AllDone tasks first ∧ AllDone others later := by
  induction tasks generalizing moments with
  | nil => exact ⟨[], moments, rfl, .nil, all⟩
  | cons task tasks ih =>
    cases all with
    | cons done rest =>
      obtain ⟨first, later, rfl, mine, theirs⟩ := ih rest
      exact ⟨_ ++ first, later, (List.append_assoc ..).symm, .cons done mine, theirs⟩

-- By induction on the steps: what is done after a step is done for what it sets off, and then for
-- the tasks behind it.
theorem Reaches.allDone (run : Reaches state tasks moments final []) : AllDone tasks moments := by
  generalize hleft : ([] : List Task) = left at run
  induction run with
  | refl =>
    rw [← hleft]
    exact .nil
  | step takes later ih =>
    obtain ⟨inner, others, rfl, mine, theirs⟩ := (ih hleft).of_append
    exact .cons (.mk mine) theirs

-- A step that writes a field sets off the calls of the listeners that the field has by then.
theorem Takes.notifies (takes : Takes state task outcome)
    (wrote : .wrote fieldId value ∈ outcome.events) :
    ∃ places, Addressees state.fields fieldId places ∧ outcome.tasks = places.map .call := by
  cases takes with
  | act action =>
    cases action with
    | set written other =>
      simp only [step, set] at wrote ⊢
      split at wrote
      · cases wrote
      · obtain ⟨rfl, rfl⟩ : fieldId = written ∧ value = other := by simpa using wrote
        exact ⟨_, addressees_listenersOf state fieldId, rfl⟩
    | listen => simp [step, listen] at wrote
  | call => simp at wrote

-- A listener is known by its place and its field. What counts for it is the whole run where it is
-- there from the start, and else what happens after it was added.
inductive Registered (fields : List String) (log : List Event) :
    Nat → String → List Event → Prop where
  | start {index : Nat} {fieldId : String} (there : fields[index]? = some fieldId) :
      Registered fields log index fieldId log
  | added {before after : List Event} {listener : Listener}
      (happened : log = before ++ .added listener :: after) :
      Registered fields log (fieldsAfter fields before).length listener.fieldId after

theorem Registered.due {fields : List String} {log after : List Event}
    (registered : Registered fields log index fieldId after) :
    due index fields log = after.countP (isWriteOf fieldId) := by
  cases registered with
  | start there => exact due_of_listener there log
  | @added before after listener happened =>
    rw [happened, due_append, due_eq_zero (Nat.le_refl _), Nat.zero_add, ListenedEntry.due]
    exact due_of_listener List.getElem?_concat_length after

-- A listener is called once for every write to its field after it was added. Each write is followed
-- by the calls of the listeners that its field had by then, in the order in which they were added,
-- and each call by all that it sets off. By `reaches_act` this holds of every action that is done.
theorem Reaches.notified {actions : List Action}
    (run : state.Reaches (actions.map .act) moments final []) :
    (∀ index fieldId after, Registered state.fields (events moments) index fieldId after →
      (events moments).countP (isCallOf index) = after.countP (isWriteOf fieldId)) ∧
    ∀ before moment after fieldId value, moments = before ++ moment :: after →
      .wrote fieldId value ∈ moment.outcome.events →
      ∃ places calls rest,
        Addressees (fieldsAfter state.fields (events before)) fieldId places ∧
        AllDone (places.map .call) calls ∧ after = calls ++ rest := by
  constructor
  · intro index fieldId after registered
    have balance := run.balance index
    rw [countP_isCallOf_acts, registered.due, List.countP_nil] at balance
    omega
  · intro before moment after fieldId value split wrote
    subst split
    obtain ⟨rest, reached, takes, later⟩ := run.at_moment
    obtain ⟨places, addressees, calls⟩ := takes.notifies wrote
    obtain ⟨inner, others, rfl, mine, _⟩ := later.allDone.of_append
    rw [reached.fields_final] at addressees
    rw [calls] at mine
    exact ⟨places, inner, others, addressees, mine, rfl⟩

-- An entry with a title, and a listener that sets the title once more when it is first called, and
-- then adds another listener to it.
def titled : ListenedEntry := { entry := .empty { fields := [{ id := "title", type := .text }] } }

def late : Listener := ⟨"title", "late", 0, []⟩

def again : Listener :=
  ⟨"title", "again", 1,
    [.set "title" (.string "second"), .listen late.fieldId late.tag late.budget late.actions]⟩

def againActions : List Action :=
  [.listen again.fieldId again.tag again.budget again.actions, .set "title" (.string "first"),
    .set "title" (.string "third")]

-- The listener that comes late is not called for the write during which it is added.
def againLog : List Event :=
  [.added again, .wrote "title" (.string "first"), .called 0 "again" "title" (.string "first"),
    .wrote "title" (.string "second"), .called 0 "again" "title" (.string "second"), .added late,
    .wrote "title" (.string "third"), .called 0 "again" "title" (.string "third"),
    .called 1 "late" "title" (.string "third")]

theorem reaches_again :
    ∃ moments final, titled.Reaches (againActions.map .act) moments final [] ∧
      events moments = againLog :=
  ⟨_, _,
    .step (.act _) <| .step (.act _) <| .step (.call rfl rfl again.actions) <|
      .step (.act _) <| .step (.call rfl rfl []) <| .step (.act _) <|
      .step (.act _) <| .step (.call rfl rfl []) <| .step (.call rfl rfl []) <| .refl _ _,
    rfl⟩

theorem notified_again :
    ∃ moments final, titled.Reaches (againActions.map .act) moments final [] ∧
      events moments = againLog ∧
      againLog.countP (isCallOf 0) = 3 ∧ againLog.countP (isCallOf 1) = 1 := by
  obtain ⟨moments, final, run, happened⟩ := reaches_again
  have calls := run.notified.1
  rw [happened] at calls
  refine ⟨moments, final, run, happened, ?_, ?_⟩
  · exact calls 0 "title" _ (@Registered.added _ _ [] _ again rfl)
  · exact calls 1 "title" _ (@Registered.added _ _ [_, _, _, _, _] _ late rfl)

end Vetting.ListenedEntry
