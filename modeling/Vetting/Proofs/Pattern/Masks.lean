import Vetting.Pattern.Moves
import Vetting.Proofs.Pattern.Spans

namespace Vetting.Pattern.Moves

theorem testBit_maskOf (p : Char → Bool) (text : List Char) (place : Nat) :
    (maskOf p text).testBit place = text[place]?.any p := by
  induction text generalizing place with
  | nil => simp [maskOf]
  | cons c rest ih =>
    have hlow : (p c).toNat < 2 ^ 1 := by cases p c <;> decide
    cases place with
    | zero =>
      simp only [maskOf, Nat.testBit_zero, List.getElem?_cons_zero, Option.any_some]
      cases p c <;> simp
    | succ place =>
      have htail := Nat.testBit_two_pow_mul_add (maskOf p rest) hlow (place + 1)
      rw [Nat.pow_one] at htail
      rw [maskOf, htail, List.getElem?_cons_succ, ← ih place]
      simp

theorem testBit_maskOf_shifted (p : Char → Bool) (text : List Char) (place : Nat) :
    (maskOf p text <<< 1).testBit place = (before? text place).any p := by
  cases place with
  | zero => simp [before?]
  | succ place => simp [Nat.testBit_shiftLeft, testBit_maskOf, before?]

theorem testBit_allPlaces (length place : Nat) :
    (allPlaces length).testBit place = decide (place ≤ length) := by
  rw [allPlaces, Nat.one_shiftLeft, Nat.testBit_two_pow_sub_one]
  exact decide_eq_decide.mpr Nat.lt_succ_iff

theorem testBit_without (a b place : Nat) :
    (without a b).testBit place = (a.testBit place && !b.testBit place) := by
  rw [without, Nat.testBit_xor, Nat.testBit_and]
  cases a.testBit place <;> cases b.testBit place <;> rfl

theorem testBit_single (one place : Nat) : (1 <<< one).testBit place = decide (one = place) := by
  rw [Nat.one_shiftLeft, Nat.testBit_two_pow]

theorem testBit_first (place : Nat) : Nat.testBit 1 place = decide (0 = place) :=
  testBit_single 0 place

-- An empty mask has no place, and any other has one.
theorem ne_zero_iff {places : Nat} : places ≠ 0 ↔ ∃ place, places.testBit place = true := by
  constructor
  · exact Nat.exists_testBit_of_ne_zero
  · rintro ⟨place, member⟩ rfl
    simp at member

theorem any_newline {c : Option Char} : c.any (· == '\n') = true ↔ c = some '\n' := by
  cases c <;> simp

theorem testBit_assertionMask (text : List Char) (a : Assertion) (place : Nat) :
    (assertionMask text a).testBit place = true ↔ place ≤ text.length ∧ a.Holds text place := by
  cases a with
  | textStart =>
    simp only [assertionMask, Assertion.Holds, testBit_first, decide_eq_true_eq]
    omega
  | textEnd =>
    simp only [assertionMask, Assertion.Holds, testBit_single, decide_eq_true_eq]
    omega
  | lineStart =>
    simp only [assertionMask, Assertion.Holds, Nat.testBit_or, testBit_first,
      testBit_maskOf_shifted, Bool.or_eq_true, decide_eq_true_eq]
    constructor
    · rintro (rfl | h)
      · exact ⟨Nat.zero_le _, .inl rfl⟩
      · exact ⟨any_before h, .inr (any_newline.mp h)⟩
    · rintro ⟨-, rfl | h⟩
      · exact .inl rfl
      · exact .inr (any_newline.mpr h)
  | lineEnd =>
    simp only [assertionMask, Assertion.Holds, Nat.testBit_or, testBit_maskOf, testBit_single,
      Bool.or_eq_true, decide_eq_true_eq]
    constructor
    · rintro (h | rfl)
      · exact ⟨Nat.le_of_lt (any_after h), .inl (any_newline.mp h)⟩
      · exact ⟨Nat.le_refl _, .inr rfl⟩
    · rintro ⟨-, h | rfl⟩
      · exact .inl (any_newline.mpr h)
      · exact .inr rfl
  | wordStart =>
    simp only [assertionMask, Assertion.Holds, testBit_without, testBit_maskOf_shifted,
      testBit_maskOf, Bool.and_eq_true, Bool.not_eq_true']
    exact ⟨fun h => ⟨Nat.le_of_lt (any_after h.1), h⟩, And.right⟩
  | wordEnd =>
    simp only [assertionMask, Assertion.Holds, testBit_without, testBit_maskOf_shifted,
      testBit_maskOf, Bool.and_eq_true, Bool.not_eq_true']
    exact ⟨fun h => ⟨any_before h.1, h⟩, And.right⟩

end Vetting.Pattern.Moves
