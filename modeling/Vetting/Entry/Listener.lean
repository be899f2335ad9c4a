import Vetting.Entry.Basic

namespace Vetting

inductive Action where
  | set (fieldId : String) (value : Json)
  -- Adds a listener, which acts on its first `budget` calls.
  | listen (fieldId tag : String) (budget : Nat) (actions : List Action)
deriving Inhabited

mutual

-- How many actions an action can set off at most, itself included.
def Action.cost : Action → Nat
  | .set .. => 1
  | .listen _ _ budget actions => 1 + budget * (1 + Action.costs actions)

def Action.costs : List Action → Nat
  | [] => 0
  | action :: rest => action.cost + costs rest

end

structure Listener where
  fieldId : String
  tag : String
  -- How many more calls it will act on.
  budget : Nat
  actions : List Action
deriving Inhabited

-- How many actions a listener can still set off at most, its acting included.
def Listener.potential (listener : Listener) : Nat :=
  listener.budget * (1 + Action.costs listener.actions)

def Listener.potentials : List Listener → Nat
  | [] => 0
  | listener :: rest => listener.potential + potentials rest

-- What happens in a run, in the order in which it happens.
inductive Event where
  | wrote (fieldId : String) (value : Json)
  | added (listener : Listener)
  -- A listener was called, and read this value of its field.
  | called (listener : Nat) (tag fieldId : String) (value : Json)
deriving Inhabited

-- An entry whose changes are listened to. A listener may set values and add listeners while it is
-- called, and what it sets off is finished before the next listener of the same change is called. A
-- listener acts a limited number of times, so every run ends.
structure ListenedEntry where
  entry : Entry
  -- In the order in which they were added; a listener is known by its place.
  listeners : List Listener := []
deriving Inhabited

namespace ListenedEntry

-- What is still to be done.
inductive Task where
  | act (action : Action)
  | call (listener : Nat)
deriving Inhabited

-- The outcome of a task: the state after it, what it sets off, and what happened.
structure Step where
  next : ListenedEntry
  tasks : List Task := []
  events : List Event := []

-- The listeners that a change of a field calls, in the order in which they were added.
def listenersOf (state : ListenedEntry) (fieldId : String) : List Nat :=
  (state.listeners.zipIdx.filter fun (listener, _) => listener.fieldId == fieldId).map (·.2)

-- A change of a field calls its listeners; a field that is not declared is left alone.
def set (state : ListenedEntry) (fieldId : String) (value : Json) : Step :=
  match state.entry.set? fieldId value with
  | none => { next := state }
  | some entry =>
    { next := { state with entry }
      tasks := (state.listenersOf fieldId).map .call
      events := [.wrote fieldId value] }

def listen (state : ListenedEntry) (listener : Listener) : Step :=
  { next := { state with listeners := state.listeners ++ [listener] }
    events := [.added listener] }

-- A listener reads its field, and acts as long as its budget lasts.
def call (state : ListenedEntry) (index : Nat) : Step :=
  match state.listeners[index]? with
  | none => { next := state }
  | some listener =>
    let value := (state.entry.value? listener.fieldId).getD .null
    let events := [.called index listener.tag listener.fieldId value]
    match listener.budget with
    | 0 => { next := state, events }
    | budget + 1 =>
      { next := { state with listeners := state.listeners.set index { listener with budget } }
        tasks := listener.actions.map .act
        events }

def step (state : ListenedEntry) : Task → Step
  | .act (.set fieldId value) => state.set fieldId value
  | .act (.listen fieldId tag budget actions) => state.listen ⟨fieldId, tag, budget, actions⟩
  | .call index => state.call index

-- How many actions a task stands for, apart from those of listeners that are already there.
def Task.cost : Task → Nat
  | .act action => action.cost
  | .call _ => 0

def Task.costs : List Task → Nat
  | [] => 0
  | task :: rest => task.cost + costs rest

def Task.isCall : Task → Bool
  | .act _ => false
  | .call _ => true

-- How many actions can still follow at most.
def potential (state : ListenedEntry) (tasks : List Task) : Nat :=
  Listener.potentials state.listeners + Task.costs tasks

theorem potentials_append (listeners others : List Listener) :
    Listener.potentials (listeners ++ others) =
      Listener.potentials listeners + Listener.potentials others := by
  induction listeners with
  | nil => simp [Listener.potentials]
  | cons listener rest ih =>
    simp only [List.cons_append, Listener.potentials, ih]
    omega

theorem potentials_set {listeners : List Listener} {index : Nat} {listener : Listener}
    (h : listeners[index]? = some listener) (other : Listener) :
    Listener.potentials (listeners.set index other) + listener.potential =
      Listener.potentials listeners + other.potential := by
  induction listeners generalizing index with
  | nil => simp at h
  | cons first rest ih =>
    cases index with
    | zero =>
      simp only [List.getElem?_cons_zero, Option.some.injEq] at h
      simp only [List.set_cons_zero, Listener.potentials, h]
      omega
    | succ index =>
      simp only [List.getElem?_cons_succ] at h
      have := ih h
      simp only [List.set_cons_succ, Listener.potentials]
      omega

theorem costs_append (tasks others : List Task) :
    Task.costs (tasks ++ others) = Task.costs tasks + Task.costs others := by
  induction tasks with
  | nil => simp [Task.costs]
  | cons task rest ih =>
    simp only [List.cons_append, Task.costs, ih]
    omega

theorem costs_actions (actions : List Action) :
    Task.costs (actions.map .act) = Action.costs actions := by
  induction actions with
  | nil => rfl
  | cons action rest ih => simp [Task.costs, Task.cost, Action.costs, ih]

theorem costs_calls (indices : List Nat) : Task.costs (indices.map .call) = 0 := by
  induction indices with
  | nil => rfl
  | cons index rest ih => simp [Task.costs, Task.cost, ih]

-- A step uses up an action, or makes a call that sets off nothing.
theorem potential_step (state : ListenedEntry) (task : Task) (rest : List Task) :
    (state.step task).next.potential ((state.step task).tasks ++ rest) <
        state.potential (task :: rest) ∨
      ((state.step task).next.potential ((state.step task).tasks ++ rest) =
          state.potential (task :: rest) ∧
        task.isCall = true ∧ (state.step task).tasks = []) := by
  cases task with
  | act action =>
    left
    cases action with
    | set fieldId value =>
      simp only [step, set]
      cases state.entry.set? fieldId value with
      | none => simp [potential, Task.costs, Task.cost, Action.cost]
      | some entry =>
        simp only [potential, costs_append, costs_calls, Task.costs, Task.cost, Action.cost]
        omega
    | listen fieldId tag budget actions =>
      simp only [step, listen, potential, potentials_append, Listener.potentials,
        Listener.potential, List.nil_append, Task.costs, Task.cost, Action.cost]
      omega
  | call index =>
    simp only [step, call]
    cases h : state.listeners[index]? with
    | none => simp [potential, Task.costs, Task.cost, Task.isCall]
    | some listener =>
      obtain ⟨fieldId, tag, budget, actions⟩ := listener
      cases budget with
      | zero => simp [potential, Task.costs, Task.cost, Task.isCall]
      | succ budget =>
        left
        have shrunk := potentials_set h ⟨fieldId, tag, budget, actions⟩
        simp only [Listener.potential, Nat.add_mul] at shrunk
        simp only [potential, costs_append, costs_actions, Task.costs, Task.cost]
        omega

-- Does all tasks, what a task sets off before the next one. Each step lowers the number of actions
-- that can follow, or keeps it and does away with a call.
def run (state : ListenedEntry) : List Task → ListenedEntry × List Event
  | [] => (state, [])
  | task :: rest =>
    let done := state.step task
    let (final, events) := run done.next (done.tasks ++ rest)
    (final, done.events ++ events)
termination_by tasks => (state.potential tasks, (tasks.filter Task.isCall).length)
decreasing_by
  rcases potential_step state task rest with less | ⟨same, isCall, none⟩
  · exact Prod.Lex.left _ _ less
  · rw [same, none]
    apply Prod.Lex.right
    simp [isCall]

-- Does one action and all that it sets off.
def act (state : ListenedEntry) (action : Action) : ListenedEntry × List Event :=
  state.run [.act action]

end ListenedEntry

end Vetting
