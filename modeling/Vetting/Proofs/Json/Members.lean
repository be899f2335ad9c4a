import Mathlib.Data.List.Induction
import Vetting.Json.Basic

namespace Vetting.Json.Members

theorem mem_of_lookup {β : Type} {key : String} {value : β} {entries : List (String × β)}
    (h : entries.lookup key = some value) : (key, value) ∈ entries := by
  obtain ⟨before, after, rfl, _⟩ := List.lookup_eq_some_iff.mp h
  exact List.mem_append_right _ List.mem_cons_self

-- What holds of the value under a key holds of every entry with that key, if no key is repeated.
theorem forall_lookup_iff {β : Type} {entries : List (String × β)}
    (distinct : (entries.map (·.1)).Nodup) {key : String} {P : β → Prop} :
    (∀ value, entries.lookup key = some value → P value) ↔
      ∀ entry ∈ entries, entry.1 = key → P entry.2 := by
  induction entries with
  | nil => simp
  | cons entry rest ih =>
    obtain ⟨k, value⟩ := entry
    obtain ⟨fresh, distinct⟩ := List.nodup_cons.mp distinct
    rw [List.forall_mem_cons, ← ih distinct, List.lookup_cons]
    by_cases hk : key = k
    · subst hk
      have absent : rest.lookup key = none := by
        rw [List.lookup_eq_none_iff]
        intro other ho
        exact bne_iff_ne.mpr fun same => fresh (List.mem_map.mpr ⟨other, ho, same.symm⟩)
      simp [absent]
    · have differs : (key == k) = false := beq_eq_false_iff_ne.mpr hk
      simp [differs, Ne.symm hk]

theorem lookup_cons_of_ne {key other : String} (h : other ≠ key) (value : Json)
    (rest : Members) : List.lookup other ((key, value) :: rest) = List.lookup other rest := by
  have hb : (other == key) = false := beq_eq_false_iff_ne.mpr h
  simp only [List.lookup_cons, hb]

theorem get?_insert_self (members : Members) (key : String) (value : Json) :
    get? (insert key value members) key = some value := by
  unfold get?
  induction members with
  | nil => simp [insert]
  | cons member rest ih =>
    obtain ⟨k, v⟩ := member
    unfold insert
    split
    · simp
    split
    · simp
    · rename_i hdiffers
      have hne : key ≠ k := fun h => hdiffers (by simp [h])
      rw [lookup_cons_of_ne hne]
      exact ih

theorem get?_insert_of_ne {key other : String} (ho : other ≠ key) (members : Members)
    (value : Json) : get? (insert key value members) other = get? members other := by
  unfold get?
  induction members with
  | nil => exact lookup_cons_of_ne ho value []
  | cons member rest ih =>
    obtain ⟨k, v⟩ := member
    unfold insert
    split
    · rw [lookup_cons_of_ne ho]
    split
    · rename_i hsame
      obtain rfl : key = k := by simpa using hsame
      rw [lookup_cons_of_ne ho, lookup_cons_of_ne ho]
    · by_cases hk : other = k
      · subst hk
        simp
      · rw [lookup_cons_of_ne hk, lookup_cons_of_ne hk]
        exact ih

@[simp] theorem get?_insert (members : Members) (key : String) (value : Json) (other : String) :
    get? (insert key value members) other =
      if other = key then some value else get? members other := by
  by_cases ho : other = key
  · rw [if_pos ho, ho, get?_insert_self]
  · rw [if_neg ho, get?_insert_of_ne ho]

theorem contains_insert (members : Members) (key : String) (value : Json) (other : String) :
    contains (insert key value members) other =
      (decide (other = key) || contains members other) := by
  unfold contains
  rw [get?_insert]
  by_cases h : other = key <;> simp [h]

-- Leaving out members under other keys does not change what is found under a key.
theorem get?_filter {keeps : String → Bool} {key : String} (kept : keeps key = true)
    (members : Members) :
    get? (members.filter fun member => keeps member.1) key = get? members key := by
  unfold get?
  induction members with
  | nil => rfl
  | cons member rest ih =>
    obtain ⟨k, v⟩ := member
    by_cases hk : key = k
    · subst hk
      rw [List.filter_cons, if_pos kept, List.lookup_cons_self, List.lookup_cons_self]
    · rw [lookup_cons_of_ne hk, ← ih, List.filter_cons]
      split
      · exact lookup_cons_of_ne hk v _
      · rfl

-- Reading every value in some way reads in that way what is found under a key.
theorem get?_map (read : Json → Json) (members : Members) (key : String) :
    get? (members.map fun (key, value) => (key, read value)) key =
      (get? members key).map read := by
  unfold get?
  induction members with
  | nil => rfl
  | cons member rest ih =>
    obtain ⟨k, v⟩ := member
    rw [List.map_cons]
    by_cases hk : key = k
    · rw [hk, List.lookup_cons_self, List.lookup_cons_self, Option.map_some]
    · rw [lookup_cons_of_ne hk, lookup_cons_of_ne hk, ih]

-- The keys increase.
def Ordered (members : Members) : Prop := members.Pairwise fun a b => a.1 < b.1

-- An insertion leaves every key where it is in the order, apart from the one that is inserted.
theorem forall_insert {P : String → Prop} {members : Members} {key : String}
    (h : ∀ member ∈ members, P member.1) (hkey : P key) (value : Json) :
    ∀ member ∈ insert key value members, P member.1 := by
  induction members with
  | nil => simpa [insert] using hkey
  | cons member rest ih =>
    obtain ⟨k, v⟩ := member
    obtain ⟨hk, hrest⟩ := List.forall_mem_cons.mp h
    unfold insert
    split
    · exact List.forall_mem_cons.mpr ⟨hkey, h⟩
    split
    · exact List.forall_mem_cons.mpr ⟨hkey, hrest⟩
    · exact List.forall_mem_cons.mpr ⟨hk, ih hrest⟩

theorem Ordered.insert {members : Members} (ordered : Ordered members) (key : String)
    (value : Json) : Ordered (members.insert key value) := by
  induction members with
  | nil => exact List.pairwise_singleton _ _
  | cons member rest ih =>
    obtain ⟨k, v⟩ := member
    obtain ⟨least, hrest⟩ := List.pairwise_cons.mp ordered
    unfold Members.insert
    split
    · rename_i before
      refine List.pairwise_cons.mpr ⟨List.forall_mem_cons.mpr ⟨before, ?_⟩, ordered⟩
      exact fun member hm => String.lt_trans before (least member hm)
    split
    · rename_i same
      obtain rfl : key = k := by simpa using same
      exact List.pairwise_cons.mpr ⟨least, hrest⟩
    · rename_i notBefore differs
      have after : k < key := by
        apply Std.lt_of_le_of_ne (String.not_lt.mp notBefore)
        rintro rfl
        simp at differs
      exact List.pairwise_cons.mpr ⟨forall_insert least after value, ih hrest⟩

@[simp] theorem ofList_append_singleton (pairs : List (String × Json)) (pair : String × Json) :
    ofList (pairs ++ [pair]) = (ofList pairs).insert pair.1 pair.2 := by
  rw [ofList, List.foldl_append]
  rfl

-- Of several values for a key the last one counts.
theorem get?_ofList (pairs : List (String × Json)) (key : String) :
    get? (ofList pairs) key = pairs.reverse.lookup key := by
  induction pairs using List.reverseRecOn with
  | nil => rfl
  | append_singleton pairs pair ih =>
    rw [ofList_append_singleton, get?_insert, ih, List.reverse_concat]
    by_cases hk : key = pair.1
    · rw [if_pos hk, hk, List.lookup_cons_self]
    · rw [if_neg hk]
      exact (lookup_cons_of_ne hk pair.2 _).symm

theorem ordered_ofList (pairs : List (String × Json)) : Ordered (ofList pairs) := by
  induction pairs using List.reverseRecOn with
  | nil => exact List.Pairwise.nil
  | append_singleton pairs pair ih =>
    rw [ofList_append_singleton]
    exact ih.insert pair.1 pair.2

-- A key behind all others goes to the end.
theorem insert_of_forall_lt {members : Members} {key : String}
    (h : ∀ member ∈ members, member.1 < key) (value : Json) :
    members.insert key value = members ++ [(key, value)] := by
  induction members with
  | nil => rfl
  | cons member rest ih =>
    obtain ⟨k, v⟩ := member
    obtain ⟨hk, hrest⟩ := List.forall_mem_cons.mp h
    have differs : ¬(key == k) = true := by
      rw [beq_iff_eq]
      rintro rfl
      exact String.lt_irrefl _ hk
    rw [insert, if_neg (String.lt_asymm hk), if_neg differs, ih hrest, List.cons_append]

-- Members in order are those of the object that is made of them.
theorem Ordered.ofList_eq {members : Members} (ordered : Ordered members) :
    ofList members = members := by
  induction members using List.reverseRecOn with
  | nil => rfl
  | append_singleton members member ih =>
    obtain ⟨before, _, least⟩ := List.pairwise_append.mp ordered
    have last : ∀ other ∈ members, other.1 < member.1 :=
      fun other ho => least other ho member (List.mem_singleton_self member)
    rw [ofList_append_singleton, ih before, insert_of_forall_lt last]

end Vetting.Json.Members
