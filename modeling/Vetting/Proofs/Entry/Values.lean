import Vetting.Entry.Basic
import Vetting.Proofs.Json.Members

namespace Vetting.Entry

-- The fields with a value are the declared ones.
def Complete (entry : Entry) : Prop :=
  ∀ id, entry.values.contains id = true ↔ id ∈ entry.contentType.fieldIds

theorem contains_foldl_insert (pairs members : Json.Members) (id : String) :
    Json.Members.contains
        (pairs.foldl (fun members (key, value) => members.insert key value) members) id = true ↔
      id ∈ pairs.map (·.1) ∨ members.contains id = true := by
  induction pairs generalizing members with
  | nil => simp
  | cons pair pairs ih =>
    rw [List.foldl_cons, ih, Json.Members.contains_insert]
    simp only [List.map_cons, List.mem_cons, Bool.or_eq_true, decide_eq_true_eq]
    rw [or_left_comm, or_assoc]

theorem complete_empty (contentType : ContentType) : (empty contentType).Complete := by
  intro id
  unfold empty Json.Members.ofList
  rw [contains_foldl_insert]
  simp [Json.Members.contains, Json.Members.get?]

-- What setting a declared field yields.
theorem set?_eq_some {entry next : Entry} {id : String} {value : Json}
    (h : entry.set? id value = some next) :
    entry.values.contains id = true ∧
      next = { entry with values := entry.values.insert id value } := by
  unfold set? at h
  split at h
  · rename_i declared
    exact ⟨declared, (Option.some.inj h).symm⟩
  · cases h

theorem Complete.set? {entry next : Entry} {id : String} {value : Json} (complete : entry.Complete)
    (h : entry.set? id value = some next) : next.Complete := by
  obtain ⟨declared, rfl⟩ := set?_eq_some h
  intro other
  rw [← complete other, Json.Members.contains_insert, Bool.or_eq_true, decide_eq_true_eq]
  constructor
  · rintro (rfl | h)
    · exact declared
    · exact h
  · exact .inr

theorem value?_set? {entry next : Entry} {id : String} {value : Json}
    (h : entry.set? id value = some next) (other : String) :
    next.value? other = if other = id then some value else entry.value? other := by
  obtain ⟨_, rfl⟩ := set?_eq_some h
  exact Json.Members.get?_insert ..

theorem contentType_set? {entry next : Entry} {id : String} {value : Json}
    (h : entry.set? id value = some next) : next.contentType = entry.contentType := by
  rw [(set?_eq_some h).2]

-- Sets the declared ones among some fields.
def setDeclared (entry : Entry) (values : Json.Members) : Entry :=
  values.foldl (fun entry (id, value) => (entry.set? id value).getD entry) entry

@[simp] theorem setDeclared_append_singleton (entry : Entry) (values : Json.Members)
    (member : String × Json) :
    entry.setDeclared (values ++ [member]) =
      ((entry.setDeclared values).set? member.1 member.2).getD (entry.setDeclared values) := by
  simp [setDeclared]

@[simp] theorem setDeclared_contentType (entry : Entry) (values : Json.Members) :
    (entry.setDeclared values).contentType = entry.contentType := by
  induction values using List.reverseRecOn with
  | nil => rfl
  | append_singleton values member ih =>
    rw [setDeclared_append_singleton, ← ih]
    cases h : (entry.setDeclared values).set? member.1 member.2 with
    | none => rfl
    | some next => rw [Option.getD_some, contentType_set? h]

theorem Complete.setDeclared {entry : Entry} (complete : entry.Complete) (values : Json.Members) :
    (entry.setDeclared values).Complete := by
  induction values using List.reverseRecOn with
  | nil => exact complete
  | append_singleton values member ih =>
    rw [setDeclared_append_singleton]
    cases h : (entry.setDeclared values).set? member.1 member.2 with
    | none => exact ih
    | some next => exact ih.set? h

theorem setDeclared_values (entry : Entry) (values : Json.Members) :
    (entry.setDeclared values).values = entry.values.fill values := by
  unfold setDeclared Json.Members.fill
  induction values generalizing entry with
  | nil => rfl
  | cons member rest ih =>
    rw [List.foldl_cons, List.foldl_cons, ih]
    dsimp only [set?]
    split <;> rfl

-- Seeding an entry fills the places of its values, setting its fields goes through the entry.
theorem ofValues_eq_setDeclared (contentType : ContentType) (values : Json.Members) :
    ofValues contentType values = (empty contentType).setDeclared values := by
  have contentTypes := setDeclared_contentType (empty contentType) values
  have filled := setDeclared_values (empty contentType) values
  exact congrArg₂ Entry.mk contentTypes.symm filled.symm

theorem complete_ofValues (contentType : ContentType) (values : Json.Members) :
    (ofValues contentType values).Complete := by
  rw [ofValues_eq_setDeclared]
  exact (complete_empty contentType).setDeclared values

@[simp] theorem ofValues_contentType (contentType : ContentType) (values : Json.Members) :
    (ofValues contentType values).contentType = contentType := rfl

theorem Complete.exists_set? {entry : Entry} (complete : entry.Complete) {id : String}
    (declared : id ∈ entry.contentType.fieldIds) (value : Json) :
    ∃ next, entry.set? id value = some next := by
  unfold Entry.set?
  rw [if_pos ((complete id).mpr declared)]
  exact ⟨_, rfl⟩

theorem Complete.value?_eq_none {entry : Entry} (complete : entry.Complete) {id : String}
    (unknown : id ∉ entry.contentType.fieldIds) : entry.value? id = none := by
  rw [← complete id, Json.Members.contains, Bool.not_eq_true, Option.isSome_eq_false_iff,
    Option.isNone_iff_eq_none] at unknown
  exact unknown

-- Of several values for a field the last one counts.
theorem value?_setDeclared {entry : Entry} (complete : entry.Complete) (values : Json.Members)
    {id : String} (declared : id ∈ entry.contentType.fieldIds) :
    (entry.setDeclared values).value? id =
      (Json.Members.get? (.ofList values) id).or (entry.value? id) := by
  induction values using List.reverseRecOn with
  | nil => rfl
  | append_singleton values member ih =>
    rw [setDeclared_append_singleton, Json.Members.ofList_append_singleton,
      Json.Members.get?_insert]
    by_cases hid : id = member.1
    · have known : member.1 ∈ (entry.setDeclared values).contentType.fieldIds := by
        rwa [setDeclared_contentType, ← hid]
      obtain ⟨next, h⟩ := (complete.setDeclared values).exists_set? known member.2
      rw [h, Option.getD_some, value?_set? h, if_pos hid, if_pos hid, Option.some_or]
    · rw [if_neg hid, ← ih]
      cases h : (entry.setDeclared values).set? member.1 member.2 with
      | none => rfl
      | some next => rw [Option.getD_some, value?_set? h, if_neg hid]

theorem value?_empty {contentType : ContentType} {id : String}
    (declared : id ∈ contentType.fieldIds) : (empty contentType).value? id = some .null := by
  have unset (ids : List String) (known : id ∈ ids) :
      Json.Members.get? (.ofList (ids.map fun id => (id, .null))) id = some .null := by
    induction ids using List.reverseRecOn with
    | nil => cases known
    | append_singleton ids last ih =>
      rw [List.map_append, List.map_singleton, Json.Members.ofList_append_singleton,
        Json.Members.get?_insert]
      split
      · rfl
      · rename_i differs
        exact ih (by simpa [differs] using known)
  exact unset contentType.fieldIds declared

-- Content types that declare the same ids are given the same values.
theorem value?_ofValues_congr {contentType other : ContentType}
    (same : ∀ id, id ∈ other.fieldIds ↔ id ∈ contentType.fieldIds) (values : Json.Members)
    (id : String) :
    (ofValues other values).value? id = (ofValues contentType values).value? id := by
  by_cases declared : id ∈ contentType.fieldIds
  · have declared' := (same id).mpr declared
    rw [ofValues_eq_setDeclared, value?_setDeclared (complete_empty _) _ declared',
      value?_empty declared', ofValues_eq_setDeclared,
      value?_setDeclared (complete_empty _) _ declared, value?_empty declared]
  · rw [(complete_ofValues contentType _).value?_eq_none (by rwa [ofValues_contentType]),
      (complete_ofValues other _).value?_eq_none (by rwa [ofValues_contentType, same])]

-- The values of an entry are those of a map, in whatever order and however often they were given.
theorem value?_ofValues_ofList (contentType : ContentType) (values : Json.Members) (id : String) :
    (ofValues contentType (.ofList values)).value? id =
      (ofValues contentType values).value? id := by
  by_cases declared : id ∈ contentType.fieldIds
  · have start := complete_empty contentType
    rw [ofValues_eq_setDeclared, value?_setDeclared start _ declared, ofValues_eq_setDeclared,
      value?_setDeclared start _ declared, (Json.Members.ordered_ofList values).ofList_eq]
  · rw [(complete_ofValues contentType _).value?_eq_none (by rwa [ofValues_contentType]),
      (complete_ofValues contentType _).value?_eq_none (by rwa [ofValues_contentType])]

end Vetting.Entry
