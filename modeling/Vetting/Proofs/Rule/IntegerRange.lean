import Vetting.Proofs.Number.Rounding
import Vetting.Proofs.Rule.Configuration

namespace Vetting

-- An integer of 64 bits, signed or not.
def IsWord (i : Int) : Prop := -2 ^ 63 ≤ i ∧ i ≤ 2 ^ 64 - 1

theorem IsWord.natAbs_lt {i : Int} (h : IsWord i) : i.natAbs < 2 ^ 64 := by
  unfold IsWord at h
  omega

theorem IsWord.ofInt_le_iff {m n : Int} (hm : IsWord m) (hn : IsWord n) :
    Double.ofInt m ≤ .ofInt n ↔ m ≤ n ∨ Double.RoundedAlike m n := by
  rw [Double.ofInt_le_iff, Double.ofInt_eq_iff hm.natAbs_lt hn.natAbs_lt (by decide)]

-- What a part of a configuration gives as a bound: an integer, or none if it is absent or null.
def Json.GivesBound (part : Option Json) : Option Int → Prop
  | some bound => part = some (.ofInt bound) ∧ IsWord bound
  | none => part = none ∨ part = some .null

theorem Json.GivesBound.isWord {part : Option Json} {given : Option Int}
    (gives : GivesBound part given) {bound : Int} (h : bound ∈ given) : IsWord bound := by
  cases h
  exact gives.2

-- A configuration of a range whose bounds are integers, each of which may be absent.
structure IntegerBounds (config : Json) (min max : Option Int) : Prop where
  describes : RuleKind.range.Describes config
  min : Json.GivesBound (config.part? "min" 0) min
  max : Json.GivesBound (config.part? "max" 1) max

-- The bounds hold of an integer.
def WithinBounds (min max : Option Int) (n : Int) : Prop :=
  (∀ bound ∈ min, bound ≤ n) ∧ ∀ bound ∈ max, n ≤ bound

namespace Bounds

theorem eq_of_holds {key : String} {part : Option Json} {read : Option Double}
    {bound : Option Int} (holds : (boundSlot key).Holds part read)
    (gives : Json.GivesBound part bound) : read = bound.map Double.ofInt := by
  cases bound with
  | some bound =>
    obtain ⟨rfl, -⟩ := gives
    cases holds
    rfl
  | none => rcases gives with rfl | rfl <;> cases holds <;> rfl

theorem contains_ofInt_iff {min max : Option Int} {n : Int} :
    contains ⟨min.map Double.ofInt, max.map Double.ofInt⟩ (.ofInt n) = true ↔
      (∀ bound ∈ min, Double.ofInt bound ≤ .ofInt n) ∧
        ∀ bound ∈ max, Double.ofInt n ≤ .ofInt bound := by
  unfold contains
  cases min <;> cases max <;> simp

end Bounds

-- A configuration with integer bounds is read as the range of the rounded bounds.
theorem IntegerBounds.ofConfig_eq {config : Json} {min max : Option Int}
    (bounds : IntegerBounds config min max) :
    Rule.ofConfig .range config = .ok (.range ⟨min.map Double.ofInt, max.map Double.ofInt⟩) := by
  obtain ⟨rule, read⟩ := (RuleKind.exists_ofConfig_iff (by decide)).mpr bounds.describes
  obtain ⟨declared, hdeclared, rfl⟩ := Outcome.map_eq_ok.mp read
  obtain ⟨record, built, holds⟩ := Json.RecordShape.read_eq_ok hdeclared
  obtain ⟨lower, hlower, rest⟩ := Outcome.bind_eq_ok.mp built
  obtain ⟨upper, hupper, same⟩ := Outcome.bind_eq_ok.mp rest
  cases same
  rw [read, Bounds.eq_of_holds (holds hlower) bounds.min,
    Bounds.eq_of_holds (holds hupper) bounds.max]

namespace Field

variable {field : Field} {index : Nat} {declaration : Declaration} {config : Json}

-- A range with integer bounds lets an integer pass if it is within the bounds, or is rounded to the
-- same double as a bound that it exceeds. Up to 2 ^ 53 nothing is rounded, and the range is exact.
theorem integer_range_iff {min max : Option Int} {options : Options}
    (declared : field.validations[index]? = some declaration)
    (known : RuleKind.range ∈ RuleKind.ofFieldType field.type)
    (present : declaration.get? "range" = some config) (bounds : IntegerBounds config min max)
    (kept : options.zeroBoundIsAbsent = false) :
    ∃ rule check,
      (∀ other, ⟨Site.path ⟨field, index, .range⟩, other⟩ ∈ field.declaredRules ↔ other = rule) ∧
      rule.compile options = .ok check ∧
      ∀ n, IsWord n → ∃ passed, check.test (.ofInt n) = .ok passed ∧
        (passed = true ↔
          (∀ bound ∈ min, bound ≤ n ∨ Double.RoundedAlike bound n) ∧
            ∀ bound ∈ max, n ≤ bound ∨ Double.RoundedAlike n bound) ∧
        (WithinBounds min max n → passed = true) ∧
        (n.natAbs ≤ 2 ^ 53 → (∀ bound ∈ min, bound.natAbs ≤ 2 ^ 53) →
          (∀ bound ∈ max, bound.natAbs ≤ 2 ^ 53) → (passed = true ↔ WithinBounds min max n)) := by
  have configured : (RuleKind.range, config) ∈ field.configured declaration :=
    mem_configured known present
  have rules (other : Rule) : ⟨Site.path ⟨field, index, .range⟩, other⟩ ∈ field.declaredRules ↔
      other = .range ⟨min.map Double.ofInt, max.map Double.ofInt⟩ := by
    rw [mem_declaredRules_iff_read declared configured, bounds.ofConfig_eq,
      Except.ok.injEq, eq_comm]
  have compiled : options.bounds ⟨min.map Double.ofInt, max.map Double.ofInt⟩ =
      ⟨min.map Double.ofInt, max.map Double.ofInt⟩ := by
    unfold Options.bounds
    rw [kept]
    rfl
  refine ⟨_, _, rules, rfl, fun n word => ?_⟩
  rw [compiled]
  refine ⟨Bounds.contains ⟨min.map .ofInt, max.map .ofInt⟩ (.ofInt n), rfl, ?_⟩
  rw [Bounds.contains_ofInt_iff]
  refine ⟨?_, fun ⟨above, below⟩ => ?_, fun hn hmin hmax => ?_⟩
  · exact and_congr
      (forall₂_congr fun bound h => (bounds.min.isWord h).ofInt_le_iff word)
      (forall₂_congr fun bound h => word.ofInt_le_iff (bounds.max.isWord h))
  · exact ⟨fun bound h => Double.ofInt_mono (above bound h),
      fun bound h => Double.ofInt_mono (below bound h)⟩
  · exact and_congr
      (forall₂_congr fun bound h => Double.ofInt_le_iff_of_exact (hmin bound h) hn)
      (forall₂_congr fun bound h => Double.ofInt_le_iff_of_exact hn (hmax bound h))

-- A range from one above 2 ^ 53 on, which is the first integer that is rounded.
def roundedAge : Field where
  id := "age"
  type := .integer
  validations := [⟨[("range", .object [("min", .ofInt 9007199254740993)])]⟩]

theorem integerBounds_roundedAge :
    IntegerBounds (.object [("min", .ofInt 9007199254740993)]) (some 9007199254740993) none where
  describes := by
    refine .inl ⟨_, rfl, ?_, ?_⟩ <;> intro value member <;> simp at member
    subst member
    exact .inr ⟨_, rfl⟩
  min := ⟨rfl, by unfold IsWord; decide⟩
  max := .inl rfl

theorem integer_range_iff_rounded :
    ∃ rule check, ⟨"/fields/age/validations/0/range", rule⟩ ∈ roundedAge.declaredRules ∧
      rule.compile { zeroBoundIsAbsent := false } = .ok check ∧
      check.test (.ofInt 9007199254740993) = .ok true ∧
      check.test (.ofInt 9007199254740992) = .ok true ∧
      check.test (.ofInt 9007199254740991) = .ok false := by
  have declared : roundedAge.validations[0]? =
    some ⟨[("range", .object [("min", .ofInt 9007199254740993)])]⟩ := rfl
  have known : RuleKind.range ∈ RuleKind.ofFieldType roundedAge.type := by decide
  have kept : ({ zeroBoundIsAbsent := false } : Options).zeroBoundIsAbsent = false := rfl
  obtain ⟨rule, check, rules, compiled, tested⟩ :=
    integer_range_iff declared known rfl integerBounds_roundedAge kept
  have hbound : IsWord 9007199254740993 := by unfold IsWord; decide
  have hbelow : IsWord 9007199254740992 := by unfold IsWord; decide
  have hfurther : IsWord 9007199254740991 := by unfold IsWord; decide
  refine ⟨rule, check, (rules rule).mpr rfl, compiled, ?_, ?_, ?_⟩
  · obtain ⟨passed, test, -, within, -⟩ := tested _ hbound
    rw [test, within ⟨by decide, by decide⟩]
  · obtain ⟨passed, test, iff, -⟩ := tested _ hbelow
    have alike : Double.RoundedAlike 9007199254740993 9007199254740992 :=
      (Double.ofInt_eq_iff hbound.natAbs_lt hbelow.natAbs_lt (by decide)).mp (by decide +kernel)
    rw [test, iff.mpr ⟨fun bound h => Option.some.inj h ▸ .inr alike, nofun⟩]
  · obtain ⟨passed, test, iff, -⟩ := tested _ hfurther
    have exceeds : ¬Double.ofInt 9007199254740993 ≤ .ofInt 9007199254740991 := by decide +kernel
    have fails : passed ≠ true := by
      rw [ne_eq, iff]
      exact fun pass => exceeds ((hbound.ofInt_le_iff hfurther).mpr (pass.1 _ rfl))
    rw [test, Bool.eq_false_of_not_eq_true fails]

-- A bound is passed by the integer below it, which is rounded to the same double.
theorem integer_range_inexact :
    ¬∀ (field : Field) (index : Nat) (declaration : Declaration) (config : Json)
      (min max : Option Int) (options : Options) (n : Int) (rule : Rule) (check : Check),
      field.validations[index]? = some declaration → field.type = .integer →
      declaration.get? "range" = some config → IntegerBounds config min max →
      IsWord n → options.zeroBoundIsAbsent = false →
      ⟨Site.path ⟨field, index, .range⟩, rule⟩ ∈ field.declaredRules →
      rule.compile options = .ok check →
      (check.test (.ofInt n) = .ok true ↔ WithinBounds min max n) := by
  intro h
  let declaration : Declaration := ⟨[("range", .object [("min", .ofInt 9007199254740993)])]⟩
  have declared : roundedAge.validations[0]? = some declaration := rfl
  have configured : (RuleKind.range, .object [("min", .ofInt 9007199254740993)]) ∈
      roundedAge.configured declaration := mem_configured (by decide) rfl
  have there := (mem_declaredRules_iff_read declared configured).mpr
    integerBounds_roundedAge.ofConfig_eq
  have exact := h roundedAge 0 declaration _ _ _ { zeroBoundIsAbsent := false } 9007199254740992
    _ _ declared rfl rfl integerBounds_roundedAge (by unfold IsWord; decide) rfl there rfl
  have passed : Check.test (.range ⟨some (.ofInt 9007199254740993), none⟩ true)
      (.ofInt 9007199254740992) = .ok true := by decide +kernel
  have below := exact.mp passed
  exact absurd (below.1 _ rfl) (by decide)

end Field

end Vetting
