import Mathlib.Data.List.Induction
import Mathlib.Data.List.Nodup
import Mathlib.Order.Bounds.Basic

namespace Vetting

variable {α : Type} {admits : α → Prop} {items before after : List α} {item : α} {place : Nat}

-- Every item is admitted and occurs once.
structure Distinct (admits : α → Prop) (items : List α) : Prop where
  admitted : ∀ item ∈ items, admits item
  nodup : items.Nodup

-- An item that may not come after some others: it is not admitted, or repeats one of them.
def IsFault (admits : α → Prop) (before : List α) (item : α) : Prop :=
  ¬admits item ∨ item ∈ before

def FaultAt (admits : α → Prop) (items : List α) (place : Nat) : Prop :=
  ∃ item, items[place]? = some item ∧ IsFault admits (items.take place) item

theorem distinct_nil : Distinct admits [] := ⟨by simp, List.nodup_nil⟩

theorem distinct_append_singleton :
    Distinct admits (items ++ [item]) ↔ Distinct admits items ∧ admits item ∧ item ∉ items := by
  have nodup : (items ++ [item]).Nodup ↔ item ∉ items ∧ items.Nodup := by
    rw [← List.concat_eq_append, List.nodup_concat]
  have admitted : (∀ other ∈ items ++ [item], admits other) ↔
      (∀ other ∈ items, admits other) ∧ admits item := by
    rw [List.forall_mem_append, List.forall_mem_singleton]
  constructor
  · intro distinct
    obtain ⟨fresh, rest⟩ := nodup.mp distinct.nodup
    obtain ⟨others, last⟩ := admitted.mp distinct.admitted
    exact ⟨⟨others, rest⟩, last, fresh⟩
  · rintro ⟨distinct, last, fresh⟩
    exact ⟨admitted.mpr ⟨distinct.admitted, last⟩, nodup.mpr ⟨fresh, distinct.nodup⟩⟩

theorem Distinct.not_faultAt (distinct : Distinct admits items) : ¬FaultAt admits items place := by
  rintro ⟨item, there, refused | again⟩
  · exact refused (distinct.admitted item (List.mem_of_getElem? there))
  · obtain ⟨inside, rfl⟩ := List.getElem?_eq_some_iff.mp there
    have split := List.take_append_drop place items
    rw [List.drop_eq_getElem_cons inside] at split
    have nodup := split ▸ distinct.nodup
    exact (List.nodup_append.mp nodup).2.2 _ again _ List.mem_cons_self rfl

-- A list is in order, or there is a first fault, behind items that are in order.
theorem distinct_or_exists_fault (admits : α → Prop) (items : List α) :
    Distinct admits items ∨ ∃ before item after, items = before ++ item :: after ∧
      Distinct admits before ∧ IsFault admits before item := by
  induction items using List.reverseRecOn with
  | nil => exact .inl distinct_nil
  | append_singleton items last ih =>
    obtain distinct | ⟨before, item, after, rfl, distinct, fault⟩ := ih
    · by_cases fault : IsFault admits items last
      · exact .inr ⟨items, last, [], rfl, distinct, fault⟩
      · obtain ⟨admitted, fresh⟩ := not_or.mp fault
        exact .inl (distinct_append_singleton.mpr ⟨distinct, not_not.mp admitted, fresh⟩)
    · exact .inr ⟨before, item, after ++ [last], by simp, distinct, fault⟩

theorem isLeast_faultAt (distinct : Distinct admits before) (fault : IsFault admits before item) :
    IsLeast {place | FaultAt admits (before ++ item :: after) place} before.length := by
  constructor
  · exact ⟨item, by simp, by rwa [List.take_left]⟩
  · rintro place ⟨other, there, again⟩
    by_contra inside
    rw [not_le] at inside
    rw [List.getElem?_append_left inside] at there
    rw [List.take_append_of_le_length inside.le] at again
    exact distinct.not_faultAt ⟨other, there, again⟩

-- A reader of lists that accepts those in order, and refuses any other for its first fault.
structure ReadsDistinct {β ε : Type} (admits : α → Prop) (faultOf : List α → α → ε)
    (items : List α) (outcome : Except ε β) : Prop where
  accepts : Distinct admits items → ∃ result, outcome = .ok result
  refuses : ∀ {before item after}, items = before ++ item :: after → Distinct admits before →
    IsFault admits before item → outcome = .error (faultOf before item)

namespace ReadsDistinct

variable {β ε : Type} {faultOf : List α → α → ε} {outcome : Except ε β}

theorem exists_ok_iff (reads : ReadsDistinct admits faultOf items outcome) :
    (∃ result, outcome = .ok result) ↔ Distinct admits items := by
  refine ⟨fun ⟨result, accepted⟩ => ?_, reads.accepts⟩
  obtain distinct | ⟨before, item, after, split, distinct, fault⟩ :=
    distinct_or_exists_fault admits items
  · exact distinct
  · cases accepted.symm.trans (reads.refuses split distinct fault)

theorem eq_error_iff (reads : ReadsDistinct admits faultOf items outcome) {error : ε} :
    outcome = .error error ↔
      ∃ place item, IsLeast {place | FaultAt admits items place} place ∧
        items[place]? = some item ∧ error = faultOf (items.take place) item := by
  obtain distinct | ⟨before, item, after, split, distinct, fault⟩ :=
    distinct_or_exists_fault admits items
  · obtain ⟨result, accepted⟩ := reads.accepts distinct
    constructor
    · intro refused
      cases accepted.symm.trans refused
    · rintro ⟨place, item, least, -⟩
      exact absurd least.1 distinct.not_faultAt
  · have least : IsLeast {place | FaultAt admits (before ++ item :: after) place} before.length :=
      isLeast_faultAt distinct fault
    rw [reads.refuses split distinct fault, split]
    constructor
    · rintro ⟨⟩
      exact ⟨before.length, item, least, by simp, by rw [List.take_left]⟩
    · rintro ⟨place, other, first, there, rfl⟩
      obtain rfl := least.unique first
      obtain rfl : item = other := by simpa using there
      rw [List.take_left]

end ReadsDistinct

section Positions

theorem mem_positions (test : α → Bool) {elements : List α} {position : Nat} :
    position ∈ (elements.zipIdx.filter fun (element, _) => test element).map (·.2) ↔
      ∃ element, elements[position]? = some element ∧ test element = true := by
  simp [List.mk_mem_zipIdx_iff_getElem?]

-- The positions of the elements that pass a test are a part of all positions, which increase.
theorem positions_increasing (test : α → Bool) (start : Nat) (elements : List α) :
    (((elements.zipIdx start).filter fun (element, _) => test element).map (·.2)).Pairwise
      (· < ·) := by
  have all : ((elements.zipIdx start).map (·.2)).Pairwise (· < ·) := by
    rw [List.zipIdx_map_snd]
    exact List.pairwise_lt_range' 1
  exact all.sublist (List.filter_sublist.map _)

end Positions

end Vetting
