import Vetting.Schema.Check

namespace Vetting.Schema

-- The value violates nothing that a schema of a schema document asks.
def Admits (document : Json) (schema : Schema) (value : Json) : Prop :=
  violations document schema value = []

variable {document : Json}

theorem itemViolations_eq_nil_iff {schema : Schema} {index : Nat} {items : List Json} :
    itemViolations document schema index items = [] ↔
      ∀ item ∈ items, Admits document schema item := by
  induction items generalizing index with
  | nil => simp [itemViolations]
  | cons item rest ih =>
    rw [itemViolations, List.append_eq_nil_iff, List.map_eq_nil_iff, ih, List.forall_mem_cons]
    rfl

theorem memberViolations_eq_nil_iff {properties : List (String × Schema)}
    {members : Json.Members} :
    memberViolations document properties members = [] ↔
      ∀ member ∈ members, ∀ schema, properties.lookup member.1 = some schema →
        Admits document schema member.2 := by
  induction members with
  | nil => simp [memberViolations]
  | cons member rest ih =>
    obtain ⟨key, value⟩ := member
    rw [memberViolations, List.append_eq_nil_iff, ih, List.forall_mem_cons]
    refine and_congr_left' ?_
    cases hl : properties.lookup key with
    | none => simp
    | some schema => simp [Admits]

theorem missingFrom_object_eq_nil_iff {required : List String} {members : Json.Members} :
    missingFrom required (.object members) = [] ↔
      ∀ key ∈ required, members.contains key = true := by
  simp [missingFrom]

theorem typeViolation_eq_nil_iff {types : List TypeName} {value : Json} :
    typeViolation types value = [] ↔ types = [] ∨ ∃ type ∈ types, type.admits value = true := by
  unfold typeViolation
  split <;> simp_all

-- Only keywords for types and items matter to an array.
theorem admits_array_iff {items : Option Schema} {properties : List (String × Schema)}
    {required : List String} {types : List TypeName} {values : List Json} :
    Admits document (.keywords items properties required types) (.array values) ↔
      (∀ schema, items = some schema → ∀ value ∈ values, Admits document schema value) ∧
        (types = [] ∨ ∃ type ∈ types, type.admits (.array values) = true) := by
  unfold Admits
  rw [violations]
  simp only [follow, missingFrom, List.append_nil, List.append_eq_nil_iff,
    typeViolation_eq_nil_iff]
  refine and_congr_left' ?_
  cases items with
  | none => simp
  | some schema => simpa [Admits] using itemViolations_eq_nil_iff

-- Only keywords for types, members and missing members matter to an object.
theorem admits_object_iff {items : Option Schema} {properties : List (String × Schema)}
    {required : List String} {types : List TypeName} {members : Json.Members} :
    Admits document (.keywords items properties required types) (.object members) ↔
      (∀ member ∈ members, ∀ schema, properties.lookup member.1 = some schema →
        Admits document schema member.2) ∧
      (∀ key ∈ required, members.contains key = true) ∧
        (types = [] ∨ ∃ type ∈ types, type.admits (.object members) = true) := by
  unfold Admits
  rw [violations]
  simp only [follow, List.append_eq_nil_iff, memberViolations_eq_nil_iff,
    missingFrom_object_eq_nil_iff, typeViolation_eq_nil_iff, and_assoc]
  rfl

-- A value must have one of the types that are named.
theorem exists_admits_of_admits {items : Option Schema} {properties : List (String × Schema)}
    {required : List String} {types : List TypeName} {value : Json}
    (h : Admits document (.keywords items properties required types) value) :
    types = [] ∨ ∃ type ∈ types, type.admits value = true := by
  unfold Admits at h
  rw [violations] at h
  exact typeViolation_eq_nil_iff.mp (List.append_eq_nil_iff.mp h).2

-- A schema that names nothing but types.
theorem admits_types_iff {types : List TypeName} {value : Json} :
    Admits document (.keywords none [] [] types) value ↔
      types = [] ∨ ∃ type ∈ types, type.admits value = true := by
  refine ⟨exists_admits_of_admits, fun h => ?_⟩
  cases value with
  | array values => exact admits_array_iff.mpr ⟨by simp, h⟩
  | object members => exact admits_object_iff.mpr ⟨by simp, by simp, h⟩
  | _ =>
    unfold Admits
    rw [violations]
    simpa [follow, missingFrom] using typeViolation_eq_nil_iff.mpr h

theorem follow_reference {members : Json.Members} {place : List String} {value : Json}
    {items : Option Schema} {properties : List (String × Schema)} {required : List String}
    {types : List TypeName} (hv : valueAt? (.object members) place = some value)
    (hs : ofJson? value = some (.keywords items properties required types)) :
    follow (.object members) (.reference (some place)) =
      some (.keywords items properties required types) := by
  -- The text of an object is not empty, so at least one reference can be followed.
  obtain ⟨limit, hl⟩ : ∃ limit, (Json.object members).compact.length = limit + 1 :=
    ⟨_, by rw [Json.compact, String.length_append]; rfl⟩
  rw [follow, hl, followFrom]
  simp only [hv, hs, Option.bind_eq_bind, Option.bind_some]
  cases limit <;> rfl

-- A reference stands for the schema that it leads to.
theorem admits_reference_iff {place : Option (List String)} {items : Option Schema}
    {properties : List (String × Schema)} {required : List String} {types : List TypeName}
    {value : Json}
    (leads : follow document (.reference place) =
      some (.keywords items properties required types)) :
    Admits document (.reference place) value ↔
      Admits document (.keywords items properties required types) value := by
  unfold Admits
  rw [violations, leads, violations]
  rfl

end Vetting.Schema
