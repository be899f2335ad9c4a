import Vetting.Proofs.Entry.Notification
import Vetting.Proofs.Entry.Values

namespace Vetting.ListenedEntry

variable {state final : ListenedEntry} {task : Task} {tasks left : List Task} {outcome : Step}
  {moments : List Moment} {index : Nat} {fieldId : String}

-- What a task sets, whether or not there is such a field.
def Task.sets : Task → Json.Members
  | .act (.set fieldId value) => [(fieldId, value)]
  | .act (.listen ..) | .call _ => []

-- What is set in a run, in the order of its steps.
def sets (moments : List Moment) : Json.Members := moments.flatMap (·.task.sets)

-- What setting fields one after another makes of an entry that nobody listens to.
def setQuietly (entry : Entry) (sets : Json.Members) : ListenedEntry :=
  (run { entry } (sets.map fun (fieldId, value) => .act (.set fieldId value))).1

theorem setQuietly_eq (entry : Entry) (sets : Json.Members) :
    setQuietly entry sets = { entry := entry.setDeclared sets } := by
  unfold setQuietly Entry.setDeclared
  induction sets generalizing entry with
  | nil =>
    rw [List.map_nil, run]
    rfl
  | cons member rest ih =>
    rw [List.map_cons, run, List.foldl_cons]
    dsimp only [step, set]
    cases entry.set? member.1 member.2 with
    | none => exact ih entry
    | some next => exact ih next

-- A step changes no values but by what it sets.
theorem Takes.entry_next (takes : Takes state task outcome) :
    outcome.next.entry = state.entry.setDeclared task.sets := by
  rcases takes.cases with ⟨fieldId, value, rfl, refused, rfl⟩ |
    ⟨fieldId, value, entry, rfl, written, rfl⟩ | ⟨fieldId, tag, budget, actions, rfl, rfl⟩ |
    ⟨index, listener, listeners, actions, rfl, found, kept, rfl⟩
  · simp [Task.sets, Entry.setDeclared, refused]
  · simp [Task.sets, Entry.setDeclared, written]
  · rfl
  · rfl

theorem Reaches.entry_final (run : Reaches state tasks moments final left) :
    final.entry = state.entry.setDeclared (sets moments) := by
  induction run with
  | refl => rfl
  | step takes later ih =>
    rw [ih, takes.entry_next]
    exact List.foldl_append.symm

-- The value that an event writes to a field.
def written? (fieldId : String) : Event → Option Json
  | .wrote written value => if fieldId = written then some value else none
  | .added _ | .called .. => none

-- The value that was written last to a field, if one was.
def lastWritten? (fieldId : String) (log : List Event) : Option Json :=
  (log.filterMap (written? fieldId)).getLast?

theorem lastWritten?_append (fieldId : String) (log later : List Event) :
    lastWritten? fieldId (log ++ later) =
      (lastWritten? fieldId later).or (lastWritten? fieldId log) := by
  simp [lastWritten?, List.getLast?_append]

theorem Takes.value?_next (takes : Takes state task outcome) (id : String) :
    outcome.next.entry.value? id =
      (lastWritten? id outcome.events).or (state.entry.value? id) := by
  rcases takes.cases with ⟨fieldId, value, rfl, refused, rfl⟩ |
    ⟨fieldId, value, entry, rfl, written, rfl⟩ | ⟨fieldId, tag, budget, actions, rfl, rfl⟩ |
    ⟨index, listener, listeners, actions, rfl, found, kept, rfl⟩
  · rfl
  · dsimp only
    rw [Entry.value?_set? written]
    by_cases hid : id = fieldId <;> simp [lastWritten?, written?, hid]
  · rfl
  · rfl

theorem Reaches.value?_final (run : Reaches state tasks moments final left) (id : String) :
    final.entry.value? id = (lastWritten? id (events moments)).or (state.entry.value? id) := by
  induction run with
  | refl => rfl
  | step takes later ih =>
    rw [ih, takes.value?_next, events_cons, lastWritten?_append, Option.or_assoc]

-- A listener is only called after a write to its field.
theorem lastWritten?_isSome {log : List Event} (h : 0 < log.countP (isWriteOf fieldId)) :
    (lastWritten? fieldId log).isSome = true := by
  obtain ⟨event, happened, writes⟩ := List.countP_pos_iff.mp h
  cases event with
  | wrote written value =>
    have found : value ∈ log.filterMap (written? fieldId) :=
      List.mem_filterMap.mpr ⟨_, happened, if_pos (beq_iff_eq.mp writes)⟩
    rw [lastWritten?, List.getLast?_isSome]
    exact List.ne_nil_of_mem found
  | added listener => cases writes
  | called listener tag fieldId value => cases writes

theorem getElem?_fieldsAfter {fields : List String} (there : fields[index]? = some fieldId)
    (log : List Event) : (fieldsAfter fields log)[index]? = some fieldId := by
  rw [fieldsAfter, List.getElem?_append_left (List.getElem?_eq_some_iff.mp there).1, there]

-- Only the writes to its field make calls of a listener due.
theorem due_le_writes {fields : List String} {log : List Event}
    (there : (fieldsAfter fields log)[index]? = some fieldId) :
    due index fields log ≤ log.countP (isWriteOf fieldId) := by
  induction log generalizing fields with
  | nil => exact Nat.le_refl 0
  | cons event log ih =>
    rw [List.countP_cons]
    cases event with
    | wrote written value =>
      have later : due index fields log ≤ log.countP (isWriteOf fieldId) := ih there
      rw [due]
      by_cases early : fields[index]? = some written
      · have still : (fieldsAfter fields log)[index]? = some written :=
          getElem?_fieldsAfter early log
        have same : fieldId = written := Option.some.inj (there.symm.trans still)
        have counts : isWriteOf fieldId (.wrote written value) = true := beq_iff_eq.mpr same
        rw [if_pos early, if_pos counts]
        omega
      · rw [if_neg early]
        omega
    | added listener =>
      have longer := fieldsAfter_append fields [.added listener] log
      exact Nat.le_add_right_of_le (ih (longer ▸ there))
    | called listener tag read value => exact Nat.le_add_right_of_le (ih there)

theorem Reaches.written_of_call {actions : List Action} {listener : Listener}
    (run : state.Reaches (actions.map .act) moments final (.call index :: left))
    (found : final.listeners[index]? = some listener) :
    (lastWritten? listener.fieldId (events moments)).isSome = true := by
  have there : (fieldsAfter state.fields (events moments))[index]? = some listener.fieldId := by
    rw [← run.fields_final, fields, List.getElem?_map, found]
    rfl
  have balance := run.balance index
  rw [countP_isCallOf_acts, List.countP_cons_of_pos (by simp [Task.isCallOf])] at balance
  have writes := due_le_writes there
  apply lastWritten?_isSome
  omega

-- What tasks come to is done before the tasks behind them, in a run of its own.
theorem Reaches.split {others : List Task}
    (run : Reaches state (tasks ++ others) moments final []) :
    ∃ first later between, moments = first ++ later ∧ Reaches state tasks first between [] ∧
      Reaches between others later final [] := by
  induction moments generalizing state tasks with
  | nil =>
    cases tasks with
    | nil => exact ⟨[], [], state, rfl, .refl _ _, run⟩
    | cons task tasks => cases run
  | cons moment moments ih =>
    cases tasks with
    | nil => exact ⟨[], _, state, rfl, .refl _ _, run⟩
    | cons task tasks =>
      rw [List.cons_append] at run
      cases run with
      | step takes rest =>
        rw [← List.append_assoc] at rest
        obtain ⟨first, later, between, rfl, mine, theirs⟩ := ih rest
        exact ⟨_ :: first, later, between, rfl, .step takes mine, theirs⟩

theorem Takes.events_of_wrote {value : Json} (takes : Takes state task outcome)
    (wrote : .wrote fieldId value ∈ outcome.events) : outcome.events = [.wrote fieldId value] := by
  rcases takes.cases with ⟨_, _, rfl, _, rfl⟩ | ⟨_, _, _, rfl, _, rfl⟩ | ⟨_, _, _, _, rfl, rfl⟩ |
    ⟨_, _, _, _, rfl, _, _, rfl⟩
  · cases wrote
  · rw [List.mem_singleton.mp wrote]
  · cases List.mem_singleton.mp wrote
  · cases List.mem_singleton.mp wrote

theorem Takes.of_called {tag : String} {value : Json} (takes : Takes state task outcome)
    (called : .called index tag fieldId value ∈ outcome.events) :
    task = .call index ∧ ∃ listener, state.listeners[index]? = some listener ∧
      fieldId = listener.fieldId ∧ value = (state.entry.value? fieldId).getD .null := by
  rcases takes.cases with ⟨_, _, rfl, _, rfl⟩ | ⟨_, _, _, rfl, _, rfl⟩ | ⟨_, _, _, _, rfl, rfl⟩ |
    ⟨_, listener, _, _, rfl, found, _, rfl⟩
  · cases called
  · cases List.mem_singleton.mp called
  · cases List.mem_singleton.mp called
  · cases List.mem_singleton.mp called
    exact ⟨rfl, listener, found, rfl, rfl⟩

-- At every moment of a run, and at its end, the entry is what the values set so far make of one
-- that nobody listens to. When all that a write set off is done, a field has the value that was
-- written to it last meanwhile, or else the one that the write left it with. A listener that is
-- called reads the value that was written to its field last. By `reaches_act` this holds of every
-- action that is done.
theorem Reaches.chronological {actions : List Action}
    (run : state.Reaches (actions.map .act) moments final []) :
    setQuietly state.entry (sets moments) = { entry := final.entry } ∧
    ∀ before moment after, moments = before ++ moment :: after →
      setQuietly state.entry (sets before) = { entry := moment.state.entry } ∧
      (∀ fieldId value, .wrote fieldId value ∈ moment.outcome.events →
        ∃ inner others resumed rest, after = inner ++ others ∧
          Reaches moment.outcome.next moment.outcome.tasks inner resumed [] ∧
          Reaches resumed rest others final [] ∧
          ∀ id, resumed.entry.value? id = (lastWritten? id (events inner)).or
            (if id = fieldId then some value else moment.state.entry.value? id)) ∧
      ∀ index tag fieldId value, .called index tag fieldId value ∈ moment.outcome.events →
        lastWritten? fieldId (events before) = some value := by
  refine ⟨by rw [setQuietly_eq, run.entry_final], ?_⟩
  intro before moment after split
  subst split
  obtain ⟨rest, reached, takes, later⟩ := run.at_moment
  refine ⟨by rw [setQuietly_eq, reached.entry_final], ?_, ?_⟩
  · intro fieldId value wrote
    obtain ⟨inner, others, resumed, rfl, mine, theirs⟩ := later.split
    refine ⟨inner, others, resumed, rest, rfl, mine, theirs, ?_⟩
    intro id
    rw [mine.value?_final, takes.value?_next, takes.events_of_wrote wrote]
    by_cases hid : id = fieldId <;> simp [lastWritten?, written?, hid]
  · intro index tag fieldId value called
    obtain ⟨isCall, listener, found, rfl, rfl⟩ := takes.of_called called
    rw [isCall] at reached
    obtain ⟨newest, hnewest⟩ := Option.isSome_iff_exists.mp (reached.written_of_call found)
    rw [reached.value?_final, hnewest]
    rfl

-- A listener that answers the first change of the title with another one, and sets a field that is
-- not declared; and one that only reads.
def echo : Listener :=
  ⟨"title", "echo", 1, [.set "slug" .null, .set "title" (.string "second")]⟩

def reader : Listener := ⟨"title", "reader", 0, []⟩

def echoed : ListenedEntry := { titled with listeners := [echo, reader] }

-- What happens before the reader is called for the first change, behind all that the echo sets off.
def echoLog : List Event :=
  [.wrote "title" (.string "first"), .called 0 "echo" "title" (.string "first"),
    .wrote "title" (.string "second"), .called 0 "echo" "title" (.string "second"),
    .called 1 "reader" "title" (.string "second")]

theorem reaches_echoed :
    ∃ before moment final,
      echoed.Reaches ([.set "title" (.string "first")].map .act) (before ++ [moment]) final [] ∧
      events before = echoLog ∧
      sets (before ++ [moment]) =
        [("title", .string "first"), ("slug", .null), ("title", .string "second")] ∧
      moment.outcome.events = [.called 1 "reader" "title" (.string "second")] :=
  ⟨[_, _, _, _, _, _], _, _,
    .step (.act _) <| .step (.call rfl rfl echo.actions) <| .step (.act _) <| .step (.act _) <|
      .step (.call rfl rfl []) <| .step (.call rfl rfl []) <| .step (.call rfl rfl []) <| .refl _ _,
    rfl, rfl, rfl⟩

theorem chronological_echoed :
    ∃ before moment final,
      echoed.Reaches ([.set "title" (.string "first")].map .act) (before ++ [moment]) final [] ∧
      final.entry.value? "title" = some (.string "second") ∧
      events before = echoLog ∧
      .called 1 "reader" "title" (.string "second") ∈ moment.outcome.events ∧
      lastWritten? "title" (events before) = some (.string "second") := by
  obtain ⟨before, moment, final, run, happened, asked, called⟩ := reaches_echoed
  obtain ⟨atEnd, atMoments⟩ := run.chronological
  have reads : .called 1 "reader" "title" (.string "second") ∈ moment.outcome.events := by
    rw [called]
    exact List.mem_singleton_self _
  refine ⟨before, moment, final, run, ?_, happened, reads, ?_⟩
  · rw [asked, setQuietly_eq] at atEnd
    rw [← (ListenedEntry.mk.inj atEnd).1]
    rfl
  · exact (atMoments before moment [] rfl).2.2 _ _ _ _ reads

end Vetting.ListenedEntry
