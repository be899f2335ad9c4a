import Vetting.Entry.Listener
import Vetting.Proofs.Entry.Values
import Vetting.Verdict.Evaluation

namespace Vetting

namespace ListenedEntry

variable {state : ListenedEntry}

-- The listeners do nothing but read when they are called.
def OnlyRead (listeners : List Listener) : Prop := ∀ listener ∈ listeners, listener.actions = []

-- Sets fields one after another. What a change sets off is done before the next one.
def setEach (state : ListenedEntry) (values : List (String × Json)) : ListenedEntry :=
  values.foldl (fun state (fieldId, value) => (state.act (.set fieldId value)).1) state

theorem OnlyRead.step_call (readers : OnlyRead state.listeners) (index : Nat) :
    (state.step (.call index)).tasks = [] ∧
      (state.step (.call index)).next.entry = state.entry ∧
      OnlyRead (state.step (.call index)).next.listeners := by
  simp only [step, call]
  cases there : state.listeners[index]? with
  | none => exact ⟨rfl, rfl, readers⟩
  | some listener =>
    obtain ⟨fieldId, tag, budget, actions⟩ := listener
    obtain rfl : actions = [] := readers _ (List.mem_of_getElem? there)
    cases budget with
    | zero => exact ⟨rfl, rfl, readers⟩
    | succ budget =>
      refine ⟨rfl, rfl, fun other ho => ?_⟩
      obtain old | rfl := List.mem_or_eq_of_mem_set ho
      · exact readers other old
      · rfl

theorem OnlyRead.run_calls (readers : OnlyRead state.listeners) (indices : List Nat) :
    (state.run (indices.map .call)).1.entry = state.entry ∧
      OnlyRead (state.run (indices.map .call)).1.listeners := by
  induction indices generalizing state with
  | nil =>
    rw [List.map_nil, run]
    exact ⟨rfl, readers⟩
  | cons index rest ih =>
    obtain ⟨idle, same, readers⟩ := readers.step_call index
    rw [List.map_cons, run, idle, List.nil_append, ← same]
    exact ih readers

-- A change of a declared field is the only thing that a call of the listeners leaves behind.
theorem OnlyRead.act_set (readers : OnlyRead state.listeners) (fieldId : String) (value : Json) :
    (state.act (.set fieldId value)).1.entry =
        (state.entry.set? fieldId value).getD state.entry ∧
      OnlyRead (state.act (.set fieldId value)).1.listeners := by
  rw [act, run]
  simp only [step, set]
  cases state.entry.set? fieldId value with
  | none =>
    rw [List.nil_append, run]
    exact ⟨rfl, readers⟩
  | some entry =>
    rw [List.append_nil]
    have readers : OnlyRead { state with entry }.listeners := readers
    exact readers.run_calls _

theorem OnlyRead.setEach (readers : OnlyRead state.listeners) (values : List (String × Json)) :
    (state.setEach values).entry = state.entry.setDeclared values := by
  unfold ListenedEntry.setEach Entry.setDeclared
  induction values generalizing state with
  | nil => rfl
  | cons member rest ih =>
    obtain ⟨written, readers⟩ := readers.act_set member.1 member.2
    rw [List.foldl_cons, List.foldl_cons, ih readers, written]

end ListenedEntry

namespace Entry

open ListenedEntry (OnlyRead)

variable {contentType : ContentType} {values : List (String × Json)} {id : String}

theorem Complete.setDeclared_filter {entry : Entry} (complete : entry.Complete)
    (values : List (String × Json)) :
    entry.setDeclared (values.filter fun member => member.1 ∈ entry.contentType.fieldIds) =
      entry.setDeclared values := by
  induction values using List.reverseRecOn with
  | nil => rfl
  | append_singleton values member ih =>
    rw [setDeclared_append_singleton, List.filter_append, List.filter_cons, List.filter_nil]
    by_cases declared : member.1 ∈ entry.contentType.fieldIds
    · rw [if_pos (decide_eq_true declared), setDeclared_append_singleton, ih]
    · have refused : (entry.setDeclared values).set? member.1 member.2 = none := by
        rw [← setDeclared_contentType entry values] at declared
        exact if_neg (mt ((complete.setDeclared values) member.1).mp declared)
      rw [if_neg (by simpa using declared), List.append_nil, ih, refused, Option.getD_none]

theorem value?_ofValues (declared : id ∈ contentType.fieldIds) (values : List (String × Json)) :
    (ofValues contentType values).value? id = some ((values.reverse.lookup id).getD .null) := by
  rw [ofValues_eq_setDeclared, value?_setDeclared (complete_empty contentType) values declared,
    value?_empty declared, Json.Members.get?_ofList]
  cases values.reverse.lookup id <;> rfl

theorem value?_ofValues_of_last {before after : List (String × Json)} {value : Json}
    (split : values = before ++ (id, value) :: after) (declared : id ∈ contentType.fieldIds)
    (last : ∀ later ∈ after, later.1 ≠ id) :
    (ofValues contentType values).value? id = some value := by
  have found : values.reverse.lookup id = some value := by
    refine List.lookup_eq_some_iff.mpr ⟨after.reverse, before.reverse, by simp [split], ?_⟩
    intro later hl
    exact bne_iff_ne.mpr (last later (List.mem_reverse.mp hl)).symm
  rw [value?_ofValues declared, found, Option.getD_some]

theorem value?_ofValues_of_absent (declared : id ∈ contentType.fieldIds)
    (absent : ∀ member ∈ values, member.1 ≠ id) :
    (ofValues contentType values).value? id = some .null := by
  have missing : values.reverse.lookup id = none := by
    rw [List.lookup_eq_none_iff]
    exact fun member hm => bne_iff_ne.mpr (absent member (List.mem_reverse.mp hm)).symm
  rw [value?_ofValues declared, missing, Option.getD_none]

-- An entry with some values is what an entry without any becomes when the values are set one after
-- another, whoever only reads on the way, and is judged like it. Its values are those of the entry
-- without any, filled in place: the last value for a declared field counts, a declared field
-- without any is null, and values for other fields leave no trace.
theorem ofValues_agrees_with_setting (contentType : ContentType) (values : List (String × Json)) :
    (∀ listeners, OnlyRead listeners →
      let updated := (ListenedEntry.setEach ⟨empty contentType, listeners⟩ values).entry
      updated = ofValues contentType values ∧
        ∀ options, updated.evaluate options = (ofValues contentType values).evaluate options) ∧
    (ofValues contentType values).values = (empty contentType).values.fill values ∧
    (∀ before id value after, values = before ++ (id, value) :: after →
      id ∈ contentType.fieldIds → (∀ later ∈ after, later.1 ≠ id) →
      (ofValues contentType values).value? id = some value) ∧
    (∀ id ∈ contentType.fieldIds, (∀ member ∈ values, member.1 ≠ id) →
      (ofValues contentType values).value? id = some .null) ∧
    (∀ id ∉ contentType.fieldIds, (ofValues contentType values).value? id = none) ∧
    ofValues contentType (values.filter fun member => member.1 ∈ contentType.fieldIds) =
      ofValues contentType values := by
  refine ⟨fun listeners readers => ?_, rfl, fun _ _ _ _ => value?_ofValues_of_last,
    fun _ => value?_ofValues_of_absent, fun id undeclared => ?_, ?_⟩
  · have start : OnlyRead (ListenedEntry.mk (empty contentType) listeners).listeners := readers
    have same := (start.setEach values).trans (ofValues_eq_setDeclared contentType values).symm
    exact ⟨same, fun options => congrArg (evaluate options) same⟩
  · apply (complete_ofValues contentType values).value?_eq_none
    rwa [ofValues_contentType]
  · rw [ofValues_eq_setDeclared, ofValues_eq_setDeclared]
    exact (complete_empty contentType).setDeclared_filter values

def twoFields : ContentType where
  fields := [{ id := "title", type := .text }, { id := "age", type := .integer }]

-- The title is given twice, the age not at all, and there is no field for the first value.
def repeatedValues : List (String × Json) :=
  [("ghost", .ofNat 1), ("title", .string "draft"), ("title", .string "final")]

def titleReader : Listener := ⟨"title", "reader", 1, []⟩

theorem ofValues_agrees_with_setting_repeated :
    OnlyRead [titleReader] ∧
      "title" ∈ twoFields.fieldIds ∧ "age" ∈ twoFields.fieldIds ∧ "ghost" ∉ twoFields.fieldIds ∧
      (∀ member ∈ repeatedValues, member.1 ≠ "age") ∧
      let updated := (ListenedEntry.setEach ⟨empty twoFields, [titleReader]⟩ repeatedValues).entry
      updated = ofValues twoFields repeatedValues ∧
        updated.evaluate {} = (ofValues twoFields repeatedValues).evaluate {} ∧
        updated.value? "title" = some (.string "final") ∧ updated.value? "age" = some .null ∧
        updated.value? "ghost" = none := by
  have readers : OnlyRead [titleReader] := List.forall_mem_singleton.mpr rfl
  have title : "title" ∈ twoFields.fieldIds := by decide
  have age : "age" ∈ twoFields.fieldIds := by decide
  have ghost : "ghost" ∉ twoFields.fieldIds := by decide
  have absent : ∀ member ∈ repeatedValues, member.1 ≠ "age" := by simp [repeatedValues]
  obtain ⟨agree, -, last, unset, undeclared, -⟩ :=
    ofValues_agrees_with_setting twoFields repeatedValues
  obtain ⟨same, judged⟩ := agree [titleReader] readers
  refine ⟨readers, title, age, ghost, absent, same, judged {}, ?_, ?_, ?_⟩
  · rw [same]
    exact last [_, _] "title" _ [] rfl title (by simp)
  · rw [same]
    exact unset "age" age absent
  · rw [same]
    exact undeclared "ghost" ghost

end Entry

end Vetting
