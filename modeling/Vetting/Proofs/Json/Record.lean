import Vetting.Json.Record
import Vetting.Proofs.Json.Members
import Vetting.Proofs.Outcome

namespace Vetting.Json

-- The part of a document that may hold a field of a record: the member of an object, or the
-- element at a place of an array.
def part? (document : Json) (key : String) (place : Nat) : Option Json :=
  match document with
  | .object members => members.lookup key
  | .array items => items[place]?
  | _ => none

-- The value of a field that was read from a part of a document, which may be absent.
def Slot.Holds {α : Type} (slot : Slot α) (part : Option Json) (value : α) : Prop :=
  match part with
  | some given => slot.read given = .ok value
  | none => slot.absent = some value

theorem Record.holds_of_named {α : Type} {members : Members} {place : Nat} {slot : Slot α}
    {value : α} (h : (Record.named members).get place slot = .ok value) :
    slot.Holds (part? (.object members) slot.key place) value := by
  unfold Record.get Members.get? at h
  unfold Slot.Holds part?
  cases hm : members.lookup slot.key with
  | some given => simpa [hm] using h
  | none =>
    cases ha : slot.absent with
    | some default => simpa [hm, ha] using h
    | none => simp [hm, ha] at h

theorem Record.holds_of_listed {α : Type} {shape : RecordShape} {items : List Json} {place : Nat}
    {slot : Slot α} {value : α} (h : (Record.listed shape items).get place slot = .ok value) :
    slot.Holds (part? (.array items) slot.key place) value := by
  unfold Record.get at h
  unfold Slot.Holds part?
  cases hi : items[place]? with
  | some given => simpa [hi] using h
  | none =>
    cases ha : slot.absent with
    | some default => simpa [hi, ha] using h
    | none => simp [hi, ha] at h

-- What a record was built from: every field that was got holds the part of the document.
theorem RecordShape.read_eq_ok {α : Type} {shape : RecordShape} {build : Record → Shaped α}
    {document : Json} {result : α} (h : shape.read build document = .ok result) :
    ∃ record, build record = .ok result ∧
      ∀ {β : Type} {place : Nat} {slot : Slot β} {value : β},
        record.get place slot = .ok value →
          slot.Holds (part? document slot.key place) value := by
  cases document with
  | object members =>
    obtain ⟨_, _, h⟩ := Outcome.bind_eq_ok.mp h
    exact ⟨_, h, Record.holds_of_named⟩
  | array items =>
    obtain ⟨built, hbuilt, h⟩ := Outcome.bind_eq_ok.mp h
    split at h
    · cases h
    · cases h
      exact ⟨_, hbuilt, Record.holds_of_listed⟩
  | _ => cases h

-- Something comes of reading a value.
def Readable {α : Type} (read : Json → Shaped α) (value : Json) : Prop :=
  ∃ result, read value = .ok result

theorem readable_map_iff {α β : Type} {read : Json → Shaped α} {f : α → β} {value : Json} :
    Readable (fun value => f <$> read value) value ↔ Readable read value := by
  unfold Readable
  simp only [Outcome.map_eq_ok]
  exact ⟨fun ⟨_, a, h, _⟩ => ⟨a, h⟩, fun ⟨a, h⟩ => ⟨_, a, h, rfl⟩⟩

theorem readable_check_iff {α : Type} {slot : Slot α} {value : Json} :
    Readable slot.check.2 value ↔ Readable slot.read value := by
  unfold Slot.check
  exact readable_map_iff

-- Every member of an object suits the field with its key, if there is one.
def RecordShape.Suits (shape : RecordShape) (members : Members) : Prop :=
  ∀ member ∈ members, ∀ check, shape.checks.lookup member.1 = some check →
    Readable check member.2

theorem checkMembers_eq_ok_iff {shape : RecordShape} {members : Members} :
    shape.checkMembers members = .ok () ↔ shape.Suits members := by
  unfold RecordShape.Suits
  induction members with
  | nil => simp [RecordShape.checkMembers]
  | cons member rest ih =>
    obtain ⟨key, value⟩ := member
    rw [RecordShape.checkMembers, List.forall_mem_cons, ← ih]
    cases hl : shape.checks.lookup key with
    | none => simp
    | some check =>
      simp only [Option.some.injEq, forall_eq', Outcome.bind_eq_ok]
      exact ⟨fun ⟨result, h, hr⟩ => ⟨⟨result, h⟩, hr⟩, fun ⟨⟨result, h⟩, hr⟩ => ⟨result, h, hr⟩⟩

theorem readable_object_iff {α : Type} {shape : RecordShape} {build : Record → Shaped α}
    {members : Members} :
    Readable (shape.read build) (.object members) ↔
      shape.Suits members ∧ ∃ result, build (.named members) = .ok result := by
  rw [← checkMembers_eq_ok_iff]
  unfold Readable RecordShape.read
  simp only [Outcome.bind_eq_ok]
  exact ⟨fun ⟨result, _, h, hr⟩ => ⟨h, result, hr⟩, fun ⟨h, result, hr⟩ => ⟨result, (), h, hr⟩⟩

-- An array may leave out fields at the end, but must not go on behind the last one.
theorem readable_array_iff {α : Type} {shape : RecordShape} {build : Record → Shaped α}
    {items : List Json} :
    Readable (shape.read build) (.array items) ↔
      (∃ result, build (.listed shape items) = .ok result) ∧
        items.length ≤ shape.checks.length := by
  unfold Readable RecordShape.read
  simp only [Outcome.bind_eq_ok]
  constructor
  · rintro ⟨result, built, h, hr⟩
    split at hr
    · cases hr
    · next short => exact ⟨⟨built, h⟩, Nat.le_of_not_lt short⟩
  · rintro ⟨⟨result, h⟩, short⟩
    exact ⟨result, result, h, if_neg (Nat.not_lt.mpr short)⟩

-- Nothing but an object or an array is read as a record.
theorem exists_of_readable {α : Type} {shape : RecordShape} {build : Record → Shaped α}
    {value : Json} (h : Readable (shape.read build) value) :
    (∃ members, value = .object members) ∨ ∃ items, value = .array items := by
  obtain ⟨result, h⟩ := h
  cases value with
  | object members => exact .inl ⟨members, rfl⟩
  | array items => exact .inr ⟨items, rfl⟩
  | _ => cases h

theorem Record.get_named_of_holds {α : Type} {members : Members} {place : Nat} {slot : Slot α}
    {value : α} (h : slot.Holds (members.get? slot.key) value) :
    (Record.named members).get place slot = .ok value := by
  unfold Slot.Holds at h
  unfold Record.get
  cases hm : members.get? slot.key with
  | some given => simpa [hm] using h
  | none =>
    have absent : slot.absent = some value := by simpa [hm] using h
    simp [hm, absent]

-- A field of an object that suits the shape can be got, unless it is missing and has no default.
theorem RecordShape.Suits.get {α : Type} {shape : RecordShape} {members : Members}
    (suits : shape.Suits members) (slot : Slot α)
    (known : shape.checks.lookup slot.key = some slot.check.2)
    (given : members.contains slot.key = true ∨ slot.absent.isSome = true) (place : Nat) :
    ∃ value, (Record.named members).get place slot = .ok value := by
  suffices ∃ value, slot.Holds (members.get? slot.key) value from
    this.imp fun _ => Record.get_named_of_holds
  unfold Slot.Holds
  cases hm : members.get? slot.key with
  | some value => exact readable_check_iff.mp (suits _ (Members.mem_of_lookup hm) _ known)
  | none =>
    have absent : slot.absent.isSome = true := by simpa [Members.contains, hm] using given
    exact Option.isSome_iff_exists.mp absent

theorem Record.contains_of_get_named {α : Type} {members : Members} {place : Nat} {slot : Slot α}
    {value : α} (h : (Record.named members).get place slot = .ok value)
    (needed : slot.absent = none) : members.contains slot.key = true := by
  have holds : slot.Holds (members.get? slot.key) value := Record.holds_of_named h
  unfold Slot.Holds at holds
  unfold Members.contains
  cases hm : members.get? slot.key with
  | some given => rfl
  | none => simp [hm, needed] at holds

end Vetting.Json
