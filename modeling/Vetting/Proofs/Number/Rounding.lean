import Mathlib.Data.Nat.Bitwise
import Mathlib.Data.Nat.Dist
import Mathlib.Tactic.Ring
import Vetting.Number.Double

namespace Vetting.Double

section Division

variable {num den : Nat}

-- Up to a half the quotient is rounded down, from a half on up.
theorem divNearest_cases (num den : Nat) :
    divNearest num den = num / den ∧
        (2 * (num % den) < den ∨ 2 * (num % den) = den ∧ num / den % 2 = 0) ∨
      divNearest num den = num / den + 1 ∧
        (den < 2 * (num % den) ∨ 2 * (num % den) = den ∧ num / den % 2 = 1) := by
  simp only [divNearest]
  split
  · next h =>
    simp only [Bool.or_eq_true, decide_eq_true_eq, Bool.and_eq_true, beq_iff_eq] at h
    exact .inl ⟨rfl, h⟩
  · next h =>
    simp only [Bool.or_eq_true, decide_eq_true_eq, Bool.and_eq_true, beq_iff_eq] at h
    exact .inr ⟨rfl, by omega⟩

-- The quotient is not further than half the divisor from the number, and half-way it is even.
theorem divNearest_bounds (num : Nat) (hden : 0 < den) :
    2 * (divNearest num den * den) ≤ 2 * num + den ∧
      2 * num ≤ 2 * (divNearest num den * den) + den ∧
      (2 * num = 2 * (divNearest num den * den) + den ∨
        2 * (divNearest num den * den) = 2 * num + den → divNearest num den % 2 = 0) := by
  have hsplit := Nat.div_add_mod num den
  have hlt := Nat.mod_lt num hden
  rw [Nat.mul_comm] at hsplit
  rcases divNearest_cases num den with ⟨down, h⟩ | ⟨up, h⟩
  · rw [down]
    omega
  · rw [up, Nat.add_mul, Nat.one_mul]
    omega

theorem divNearest_mono {other : Nat} (hden : 0 < den) (h : num ≤ other) :
    divNearest num den ≤ divNearest other den := by
  have ⟨low, _, _⟩ := divNearest_bounds num hden
  have ⟨_, high, _⟩ := divNearest_bounds other hden
  by_contra hlt
  -- Both numbers would have to be half-way between the quotients.
  have hstep : (divNearest other den + 1) * den ≤ divNearest num den * den :=
    Nat.mul_le_mul_right den (by omega)
  rw [Nat.add_mul, Nat.one_mul] at hstep
  have same : num = other := by omega
  rw [same] at hlt
  exact hlt le_rfl

theorem divNearest_mul (k : Nat) (hden : 0 < den) : divNearest (k * den) den = k := by
  simp [divNearest, hden]

theorem divNearest_le {k : Nat} (hden : 0 < den) (h : num ≤ k * den) : divNearest num den ≤ k :=
  divNearest_mul k hden ▸ divNearest_mono hden h

theorem le_divNearest {k : Nat} (hden : 0 < den) (h : k * den ≤ num) : k ≤ divNearest num den :=
  divNearest_mul k hden ▸ divNearest_mono hden h

-- No other multiple of the divisor is nearer, and if one is as near then the quotient is even.
theorem divNearest_nearest (num k : Nat) (hden : 0 < den) :
    Nat.dist num (divNearest num den * den) < Nat.dist num (k * den) ∨
      Nat.dist num (divNearest num den * den) = Nat.dist num (k * den) ∧
        (k = divNearest num den ∨ divNearest num den % 2 = 0) := by
  have ⟨low, high, even⟩ := divNearest_bounds num hden
  unfold Nat.dist
  rcases Nat.lt_trichotomy k (divNearest num den) with below | rfl | above
  · have step : (k + 1) * den ≤ divNearest num den * den := Nat.mul_le_mul_right den below
    rw [Nat.add_mul, Nat.one_mul] at step
    omega
  · exact .inr ⟨rfl, .inl rfl⟩
  · have step : (divNearest num den + 1) * den ≤ k * den := Nat.mul_le_mul_right den above
    rw [Nat.add_mul, Nat.one_mul] at step
    omega

end Division

section Ranks

theorem unitsAt_eq (rank : Nat) : unitsAt rank = significand rank * 2 ^ scale rank :=
  Nat.shiftLeft_eq ..

theorem rank_eq (rank : Nat) : rank = scale rank * 2 ^ 52 + significand rank := by
  have hscale : scale rank * 2 ^ 52 ≤ rank := by
    unfold scale
    rw [Nat.shiftRight_eq_div_pow]
    omega
  unfold significand
  rw [Nat.shiftLeft_eq]
  exact (Nat.add_sub_of_le hscale).symm

-- The significand of a scaled rank has 53 binary digits.
theorem significand_bounds (rank : Nat) :
    significand rank < 2 ^ 53 ∧ (scale rank ≠ 0 → 2 ^ 52 ≤ significand rank) := by
  unfold significand scale
  rw [Nat.shiftLeft_eq, Nat.shiftRight_eq_div_pow]
  omega

-- A significand of 2 ^ 53 stands for one of 2 ^ 52 at the next scale.
theorem unitsAt_of_parts {s f : Nat} (hf : f ≤ 2 ^ 53) (hs : s = 0 ∨ 2 ^ 52 ≤ f) :
    unitsAt (s * 2 ^ 52 + f) = f * 2 ^ s := by
  have hparts : (scale (s * 2 ^ 52 + f) = s ∧ significand (s * 2 ^ 52 + f) = f) ∨
      (f = 2 ^ 53 ∧ scale (s * 2 ^ 52 + f) = s + 1 ∧ significand (s * 2 ^ 52 + f) = 2 ^ 52) := by
    unfold significand scale
    rw [Nat.shiftLeft_eq, Nat.shiftRight_eq_div_pow]
    omega
  rw [unitsAt_eq]
  rcases hparts with ⟨hscale, hsignificand⟩ | ⟨rfl, hscale, hsignificand⟩
  · rw [hscale, hsignificand]
  · rw [hscale, hsignificand, Nat.pow_succ 2 s]
    ring

theorem scale_mono {rank other : Nat} (h : rank ≤ other) : scale rank ≤ scale other := by
  unfold scale
  rw [Nat.shiftRight_eq_div_pow, Nat.shiftRight_eq_div_pow]
  exact Nat.sub_le_sub_right (Nat.div_le_div_right h) 1

theorem unitsAt_lt_of_scale_lt {rank s : Nat} (h : scale rank < s) :
    unitsAt rank < 2 ^ 52 * 2 ^ s := by
  have hpow : 2 ^ (scale rank + 1) ≤ 2 ^ s := Nat.pow_le_pow_right Nat.two_pos h
  calc unitsAt rank = significand rank * 2 ^ scale rank := unitsAt_eq rank
    _ < 2 ^ 53 * 2 ^ scale rank :=
      Nat.mul_lt_mul_of_pos_right (significand_bounds rank).1 (Nat.two_pow_pos _)
    _ = 2 ^ 52 * 2 ^ (scale rank + 1) := by ring
    _ ≤ 2 ^ 52 * 2 ^ s := Nat.mul_le_mul_left _ hpow

-- Ranks are in the order of their magnitudes.
theorem unitsAt_strictMono : StrictMono unitsAt := by
  intro rank other h
  rcases Nat.eq_or_lt_of_le (scale_mono h.le) with same | above
  · have hrank := rank_eq rank
    have hother := rank_eq other
    rw [← same] at hother
    rw [unitsAt_eq, unitsAt_eq, ← same]
    exact Nat.mul_lt_mul_of_pos_right (by omega) (Nat.two_pow_pos _)
  · have scaled : scale other ≠ 0 := by omega
    calc unitsAt rank < 2 ^ 52 * 2 ^ scale other := unitsAt_lt_of_scale_lt above
      _ ≤ significand other * 2 ^ scale other :=
        Nat.mul_le_mul_right _ ((significand_bounds other).2 scaled)
      _ = unitsAt other := (unitsAt_eq other).symm

end Ranks

section Nearest

variable {num den : Nat}

-- The scale at which a number is rounded.
def roundingScale (num den : Nat) : Nat := (num / den).log2 - 52

-- What the significand counts at that scale.
def roundingUnit (num den : Nat) : Nat := den * 2 ^ roundingScale num den

theorem nearestRank_eq (num den : Nat) :
    nearestRank num den =
      roundingScale num den * 2 ^ 52 + divNearest num (roundingUnit num den) := by
  unfold nearestRank roundingUnit roundingScale
  simp only [Nat.shiftLeft_eq]

theorem roundingUnit_pos (num : Nat) (hden : 0 < den) : 0 < roundingUnit num den :=
  Nat.mul_pos hden (Nat.two_pow_pos _)

theorem lt_mul_roundingUnit (num : Nat) (hden : 0 < den) : num < 2 ^ 53 * roundingUnit num den := by
  have hpow : 2 ^ ((num / den).log2 + 1) ≤ 2 ^ (53 + roundingScale num den) :=
    Nat.pow_le_pow_right Nat.two_pos (by unfold roundingScale; omega)
  have hquotient : num / den < 2 ^ 53 * 2 ^ roundingScale num den := by
    rw [← Nat.pow_add]
    exact Nat.lt_of_lt_of_le Nat.lt_log2_self hpow
  rw [Nat.div_lt_iff_lt_mul hden] at hquotient
  calc num < 2 ^ 53 * 2 ^ roundingScale num den * den := hquotient
    _ = 2 ^ 53 * roundingUnit num den := by unfold roundingUnit; ring

theorem mul_roundingUnit_le (hden : 0 < den) (scaled : roundingScale num den ≠ 0) :
    2 ^ 52 * roundingUnit num den ≤ num := by
  have hlog : (num / den).log2 = 52 + roundingScale num den := by
    unfold roundingScale at scaled ⊢
    omega
  have nonzero : num / den ≠ 0 := by
    intro h
    rw [h, Nat.log2_zero] at hlog
    omega
  have hquotient : 2 ^ 52 * 2 ^ roundingScale num den ≤ num / den := by
    rw [← Nat.pow_add, ← hlog]
    exact Nat.log2_self_le nonzero
  rw [Nat.le_div_iff_mul_le hden] at hquotient
  calc 2 ^ 52 * roundingUnit num den = 2 ^ 52 * 2 ^ roundingScale num den * den := by
        unfold roundingUnit; ring
    _ ≤ num := hquotient

theorem roundingScale_le {k : Nat} (hden : 0 < den) (h : num < den * 2 ^ (53 + k)) :
    roundingScale num den ≤ k := by
  unfold roundingScale
  rcases Nat.eq_zero_or_pos (num / den) with zero | pos
  · rw [zero, Nat.log2_zero]
    exact Nat.zero_le _
  · have hquotient : num / den < 2 ^ (53 + k) := by
      rwa [Nat.div_lt_iff_lt_mul hden, Nat.mul_comm]
    rw [← Nat.log2_lt (by omega)] at hquotient
    omega

theorem rounded_le (num : Nat) (hden : 0 < den) : divNearest num (roundingUnit num den) ≤ 2 ^ 53 :=
  divNearest_le (roundingUnit_pos num hden) (lt_mul_roundingUnit num hden).le

theorem le_rounded (hden : 0 < den) (scaled : roundingScale num den ≠ 0) :
    2 ^ 52 ≤ divNearest num (roundingUnit num den) :=
  le_divNearest (roundingUnit_pos num hden) (mul_roundingUnit_le hden scaled)

theorem unitsAt_nearestRank (num : Nat) (hden : 0 < den) :
    unitsAt (nearestRank num den) * den =
      divNearest num (roundingUnit num den) * roundingUnit num den := by
  rw [nearestRank_eq, unitsAt_of_parts (rounded_le num hden)]
  · unfold roundingUnit
    ring
  · by_cases scaled : roundingScale num den = 0
    · exact .inl scaled
    · exact .inr (le_rounded hden scaled)

theorem nearestRank_mono {other : Nat} (hden : 0 < den) (h : num ≤ other) :
    nearestRank num den ≤ nearestRank other den := by
  have hlog : (num / den).log2 ≤ (other / den).log2 := by
    rcases Nat.eq_zero_or_pos (num / den) with zero | pos
    · rw [zero, Nat.log2_zero]
      exact Nat.zero_le _
    · have hdiv : num / den ≤ other / den := Nat.div_le_div_right h
      rw [Nat.le_log2 (by omega)]
      exact (Nat.log2_self_le (by omega)).trans hdiv
  have hscale : roundingScale num den ≤ roundingScale other den := Nat.sub_le_sub_right hlog 52
  rw [nearestRank_eq, nearestRank_eq]
  rcases Nat.eq_or_lt_of_le hscale with same | above
  · have sameUnit : roundingUnit num den = roundingUnit other den := by
      unfold roundingUnit
      rw [same]
    rw [same, sameUnit]
    exact Nat.add_le_add_left (divNearest_mono (roundingUnit_pos other hden) h) _
  · have low := rounded_le num hden
    have high : 2 ^ 52 ≤ divNearest other (roundingUnit other den) := le_rounded hden (by omega)
    omega

theorem nearestRank_le {k : Nat} (hden : 0 < den) (h : num < den * 2 ^ (53 + k)) :
    nearestRank num den ≤ k * 2 ^ 52 + 2 ^ 53 := by
  rw [nearestRank_eq]
  exact Nat.add_le_add (Nat.mul_le_mul_right _ (roundingScale_le hden h)) (rounded_le num hden)

-- A number whose digits fit in a significand is not changed by rounding.
theorem unitsAt_nearestRank_of_parts {f s : Nat} (hf : f < 2 ^ 53) (h : num = f * 2 ^ s) :
    unitsAt (nearestRank num 1) = num := by
  have hbound : num < 1 * 2 ^ (53 + s) := by
    rw [h, Nat.one_mul, Nat.pow_add]
    exact Nat.mul_lt_mul_of_pos_right hf (Nat.two_pow_pos s)
  obtain ⟨more, hmore⟩ := Nat.exists_eq_add_of_le (roundingScale_le Nat.one_pos hbound)
  have multiple : num = f * 2 ^ more * roundingUnit num 1 :=
    calc num = f * 2 ^ s := h
      _ = f * 2 ^ (roundingScale num 1 + more) := by rw [← hmore]
      _ = f * 2 ^ more * roundingUnit num 1 := by unfold roundingUnit; ring
  have hrounded : divNearest num (roundingUnit num 1) = f * 2 ^ more :=
    (congrArg (divNearest · _) multiple).trans (divNearest_mul _ (roundingUnit_pos num Nat.one_pos))
  have hunits := unitsAt_nearestRank num Nat.one_pos
  rw [hrounded, ← multiple] at hunits
  simpa using hunits

-- A rank whose magnitude is the nearest one to `num / den`, the even one of two.
def IsNearest (num den rank : Nat) : Prop :=
  ∀ other, Nat.dist num (unitsAt rank * den) < Nat.dist num (unitsAt other * den) ∨
    Nat.dist num (unitsAt rank * den) = Nat.dist num (unitsAt other * den) ∧
      (other = rank ∨ rank % 2 = 0)

-- A magnitude at a smaller scale is further away than the least one that is rounded to.
theorem dist_lt_of_scale_lt {rank : Nat} (hden : 0 < den)
    (h : scale rank < roundingScale num den) :
    Nat.dist num (2 ^ 52 * roundingUnit num den) < Nat.dist num (unitsAt rank * den) := by
  have least : 2 ^ 52 * roundingUnit num den ≤ num := mul_roundingUnit_le hden (by omega)
  have smaller : unitsAt rank * den < 2 ^ 52 * roundingUnit num den := by
    calc unitsAt rank * den < 2 ^ 52 * 2 ^ roundingScale num den * den :=
          Nat.mul_lt_mul_of_pos_right (unitsAt_lt_of_scale_lt h) hden
      _ = 2 ^ 52 * roundingUnit num den := by unfold roundingUnit; ring
  unfold Nat.dist
  omega

theorem isNearest_nearestRank (num : Nat) (hden : 0 < den) :
    IsNearest num den (nearestRank num den) := by
  intro rank
  have hunit := roundingUnit_pos num hden
  have hparity : nearestRank num den % 2 = divNearest num (roundingUnit num den) % 2 := by
    rw [nearestRank_eq]
    omega
  have hunits := unitsAt_nearestRank num hden
  rcases Nat.lt_or_ge (scale rank) (roundingScale num den) with below | above
  · have further := dist_lt_of_scale_lt hden below
    rw [hunits]
    left
    rcases divNearest_nearest num (2 ^ 52) hunit with nearer | ⟨same, -⟩
    · exact nearer.trans further
    · exact same ▸ further
  · -- The other magnitude is a multiple of the unit.
    obtain ⟨more, hmore⟩ := Nat.exists_eq_add_of_le above
    have multiple : unitsAt rank * den = significand rank * 2 ^ more * roundingUnit num den := by
      rw [unitsAt_eq, hmore, roundingUnit]
      ring
    rw [hparity, hunits, multiple]
    refine (divNearest_nearest num (significand rank * 2 ^ more) hunit).imp_right ?_
    rintro ⟨same, equal | even⟩
    · refine ⟨same, .inl (unitsAt_strictMono.injective (Nat.eq_of_mul_eq_mul_right hden ?_))⟩
      rw [hunits, multiple, equal]
    · exact ⟨same, .inr even⟩

end Nearest

section Integers

theorem eq_of_rank {a b : Double} (hnegative : a.negative = b.negative) (hrank : a.rank = b.rank) :
    a = b := by
  cases a
  cases b
  cases hnegative
  cases hrank
  rfl

theorem negative_ofInt (i : Int) : (ofInt i).negative = decide (i < 0) := by
  unfold ofInt ofRatio? ofRank?
  split <;> rfl

-- What exceeds the finite doubles becomes the largest one.
theorem rank_ofInt (i : Int) :
    (ofInt i).rank = min (nearestRank (i.natAbs <<< 1074) 1) ((2047 <<< 52) - 1) := by
  unfold ofInt ofRatio? ofRank?
  split
  · next fits => exact (Nat.min_eq_left (Nat.le_sub_one_of_lt fits)).symm
  · next beyond => exact (Nat.min_eq_right ((Nat.sub_le _ 1).trans (Nat.le_of_not_lt beyond))).symm

theorem rank_ofInt_mono {i j : Int} (h : i.natAbs ≤ j.natAbs) :
    (ofInt i).rank ≤ (ofInt j).rank := by
  rw [rank_ofInt, rank_ofInt]
  have hunits : i.natAbs <<< 1074 ≤ j.natAbs <<< 1074 := by
    rw [Nat.shiftLeft_eq, Nat.shiftLeft_eq]
    exact Nat.mul_le_mul_right _ h
  have hrank := nearestRank_mono Nat.one_pos hunits
  omega

theorem rank_ofInt_pos {i : Int} (h : i ≠ 0) : 0 < (ofInt i).rank := by
  have hone : (ofInt 1).rank = 1023 <<< 52 := by decide +kernel
  have hmono : (ofInt 1).rank ≤ (ofInt i).rank := rank_ofInt_mono (by omega)
  omega

theorem place_ofInt (i : Int) :
    (ofInt i).place = if i < 0 then -((ofInt i).rank : Int) else (ofInt i).rank := by
  unfold place
  rw [negative_ofInt]
  simp only [decide_eq_true_eq]

theorem ofInt_mono {m n : Int} (h : m ≤ n) : ofInt m ≤ ofInt n := by
  change place _ ≤ place _
  rw [place_ofInt, place_ofInt]
  by_cases hm : m < 0
  · by_cases hn : n < 0
    · have hrank : (ofInt n).rank ≤ (ofInt m).rank := rank_ofInt_mono (by omega)
      omega
    · omega
  · have hrank : (ofInt m).rank ≤ (ofInt n).rank := rank_ofInt_mono (by omega)
    omega

-- Zero is the only integer at the origin, so the sign of an integer is kept.
theorem ofInt_eq_of_place {m n : Int} (h : (ofInt m).place = (ofInt n).place) :
    ofInt m = ofInt n := by
  rw [place_ofInt, place_ofInt] at h
  have hm : m ≠ 0 → 0 < (ofInt m).rank := rank_ofInt_pos
  have hn : n ≠ 0 → 0 < (ofInt n).rank := rank_ofInt_pos
  have hsign : m < 0 ↔ n < 0 := by omega
  have hrank : (ofInt m).rank = (ofInt n).rank := by omega
  have hnegative : (ofInt m).negative = (ofInt n).negative := by
    rw [negative_ofInt, negative_ofInt]
    exact decide_eq_decide.mpr hsign
  exact eq_of_rank hnegative hrank

theorem ofInt_le_iff {m n : Int} : ofInt m ≤ ofInt n ↔ m ≤ n ∨ ofInt m = ofInt n := by
  constructor
  · intro h
    rcases Int.le_total m n with below | above
    · exact .inl below
    · exact .inr (ofInt_eq_of_place (Int.le_antisymm h (ofInt_mono above)))
  · rintro (h | same)
    · exact ofInt_mono h
    · rw [same]
      exact Int.le_refl _

theorem natAbs_shiftLeft (i : Int) (k : Nat) : (i <<< k).natAbs = i.natAbs <<< k := by
  rw [Int.shiftLeft_eq, Nat.shiftLeft_eq, Int.natAbs_mul, Int.natAbs_pow]
  rfl

theorem shiftLeft_neg_iff {i : Int} {k : Nat} : i <<< k < 0 ↔ i < 0 := by
  have hpow : (0 : Int) < 2 ^ k := Int.pow_pos (by decide)
  rw [Int.shiftLeft_eq]
  constructor
  · intro h
    by_contra hi
    exact Int.not_le.mpr h (Int.mul_nonneg (Int.not_lt.mp hi) hpow.le)
  · intro h
    exact Int.mul_neg_of_neg_of_pos h hpow

-- The place on the number line in units of 2⁻¹⁰⁷⁴.
def value (d : Double) : Int := if d.negative then -(d.units : Int) else d.units

-- Doubles are compared by their values.
theorem le_iff_value_le {a b : Double} : a ≤ b ↔ a.value ≤ b.value := by
  have hab : b.units ≤ a.units ↔ b.rank ≤ a.rank := unitsAt_strictMono.le_iff_le
  have hba : a.units ≤ b.units ↔ a.rank ≤ b.rank := unitsAt_strictMono.le_iff_le
  have ha : a.units = 0 ↔ a.rank = 0 := unitsAt_strictMono.injective.eq_iff' rfl
  have hb : b.units = 0 ↔ b.rank = 0 := unitsAt_strictMono.injective.eq_iff' rfl
  change a.place ≤ b.place ↔ _
  unfold place value
  cases a.negative <;> cases b.negative <;> simp only [if_true, Bool.false_eq_true, if_false] <;>
    omega

-- An integer of at most 1023 binary digits does not exceed the finite doubles.
theorem rank_ofInt_of_lt {i : Int} {k : Nat} (h : i.natAbs < 2 ^ k) (hk : k ≤ 1023) :
    (ofInt i).rank = nearestRank (i.natAbs <<< 1074) 1 := by
  have hunits : i.natAbs <<< 1074 < 1 * 2 ^ (53 + (k + 1021)) := by
    rw [Nat.one_mul, show 53 + (k + 1021) = k + 1074 by omega]
    exact Nat.shiftLeft_lt h
  have hrank := nearestRank_le Nat.one_pos hunits
  have hlargest : (2047 <<< 52) - 1 = 2047 * 2 ^ 52 - 1 := rfl
  rw [rank_ofInt, hlargest]
  omega

-- How far a double is from an integer, in units of 2⁻¹⁰⁷⁴.
def distance (i : Int) (d : Double) : Nat := ((i <<< (1074 : Nat)) - d.value).natAbs

-- No double is nearer to the integer, and if another is as near then this is the even one.
def IsRounding (i : Int) (d : Double) : Prop :=
  ∀ other, distance i d < distance i other ∨
    distance i d = distance i other ∧ (other = d ∨ d.rank % 2 = 0)

theorem distance_eq (i : Int) (d : Double) :
    distance i d =
      if d.negative = decide (i < 0) then Nat.dist (i.natAbs <<< 1074) d.units
      else i.natAbs <<< 1074 + d.units := by
  have hsign : decide (i < 0) = decide (i <<< (1074 : Nat) < 0) :=
    decide_eq_decide.mpr shiftLeft_neg_iff.symm
  rw [hsign, ← natAbs_shiftLeft]
  unfold distance value Nat.dist
  generalize i <<< (1074 : Nat) = target
  cases d.negative <;> by_cases below : target < 0 <;> simp [below] <;> omega

theorem isRounding_ofInt {i : Int} {k : Nat} (h : i.natAbs < 2 ^ k) (hk : k ≤ 1023) :
    IsRounding i (ofInt i) := by
  intro d
  have nearest := isNearest_nearestRank (i.natAbs <<< 1074) Nat.one_pos
  rw [← rank_ofInt_of_lt h hk] at nearest
  simp only [IsNearest, Nat.mul_one] at nearest
  have hsign := negative_ofInt i
  rw [distance_eq, distance_eq, if_pos hsign]
  split
  · next same =>
    refine (nearest d.rank).imp_right fun ⟨equal, even⟩ => ⟨equal, even.imp_left ?_⟩
    exact eq_of_rank (same.trans hsign.symm)
  · -- Beyond zero nothing is nearer than zero itself.
    have hzero := nearest 0
    have hunits : unitsAt 0 = 0 := rfl
    rw [hunits, Nat.dist_zero_right] at hzero
    unfold units
    omega

theorem exists_of_place {p : Int} (h : p.natAbs < 2047 <<< 52) : ∃ d : Double, d.place = p := by
  refine ⟨⟨decide (p < 0), p.natAbs, h⟩, ?_⟩
  unfold place
  simp only [decide_eq_true_eq]
  omega

-- Of two doubles that are as near, one is odd.
theorem IsRounding.place_le {i : Int} {d e : Double} (hd : IsRounding i d) (he : IsRounding i e) :
    e.place ≤ d.place := by
  by_contra above
  have differ : e ≠ d := by
    rintro rfl
    exact above (Int.le_refl _)
  have hde := hd e
  have hed := he d
  have evenD : d.rank % 2 = 0 := by grind
  have evenE : e.rank % 2 = 0 := by grind
  have hplaceD : d.place % 2 = 0 := by unfold place; split <;> omega
  have hplaceE : e.place % 2 = 0 := by unfold place; split <;> omega
  have finite : (d.place + 1).natAbs < 2047 <<< 52 := by
    have hd := d.rank_lt
    have he := e.rank_lt
    unfold place at above ⊢
    split at above <;> split at above <;> omega
  obtain ⟨between, hbetween⟩ := exists_of_place finite
  have lower : d.value < between.value := by
    rw [← Int.not_le, ← le_iff_value_le]
    change ¬between.place ≤ d.place
    omega
  have upper : between.value < e.value := by
    rw [← Int.not_le, ← le_iff_value_le]
    change ¬e.place ≤ between.place
    omega
  have nearer := hd between
  unfold distance at hde hed nearer
  omega

theorem IsRounding.place_eq {i : Int} {k : Nat} {d : Double} (hd : IsRounding i d)
    (h : i.natAbs < 2 ^ k) (hk : k ≤ 1023) : d.place = (ofInt i).place :=
  Int.le_antisymm ((isRounding_ofInt h hk).place_le hd) (hd.place_le (isRounding_ofInt h hk))

-- Whether two integers are rounded to a double in common.
def RoundedAlike (m n : Int) : Prop := ∃ d, IsRounding m d ∧ IsRounding n d

theorem ofInt_eq_iff {m n : Int} {k : Nat} (hm : m.natAbs < 2 ^ k) (hn : n.natAbs < 2 ^ k)
    (hk : k ≤ 1023) : ofInt m = ofInt n ↔ RoundedAlike m n := by
  constructor
  · intro same
    have rounding := isRounding_ofInt hm hk
    rw [same] at rounding
    exact ⟨_, rounding, isRounding_ofInt hn hk⟩
  · rintro ⟨d, hdm, hdn⟩
    exact ofInt_eq_of_place ((hdm.place_eq hm hk).symm.trans (hdn.place_eq hn hk))

theorem units_ofInt_of_parts {i : Int} {f s k : Nat} (hf : f < 2 ^ 53) (h : i.natAbs = f * 2 ^ s)
    (finite : i.natAbs < 2 ^ k) (hk : k ≤ 1023) : (ofInt i).units = i.natAbs <<< 1074 := by
  unfold units
  rw [rank_ofInt_of_lt finite hk]
  apply unitsAt_nearestRank_of_parts hf
  rw [Nat.shiftLeft_eq, h]
  exact (Nat.mul_assoc ..).trans (congrArg (f * ·) (Nat.pow_add 2 s 1074).symm)

-- The integers up to 2 ^ 53 are doubles.
theorem units_ofInt {i : Int} (h : i.natAbs ≤ 2 ^ 53) : (ofInt i).units = i.natAbs <<< 1074 := by
  have finite : i.natAbs < 2 ^ 54 := by omega
  rcases Nat.eq_or_lt_of_le h with last | below
  · exact units_ofInt_of_parts (f := 2 ^ 52) (s := 1) (by decide) last finite (by decide)
  · exact units_ofInt_of_parts (s := 0) below (Nat.mul_one _).symm finite (by decide)

theorem eq_of_ofInt_eq {m n : Int} (hm : m.natAbs ≤ 2 ^ 53) (hn : n.natAbs ≤ 2 ^ 53)
    (h : ofInt m = ofInt n) : m = n := by
  have hsign : decide (m < 0) = decide (n < 0) := by
    rw [← negative_ofInt, ← negative_ofInt, h]
  have hunits : m.natAbs <<< 1074 = n.natAbs <<< 1074 := by
    rw [← units_ofInt hm, ← units_ofInt hn, h]
  rw [Nat.shiftLeft_eq, Nat.shiftLeft_eq] at hunits
  have hmagnitude : m.natAbs = n.natAbs := Nat.eq_of_mul_eq_mul_right (Nat.two_pow_pos _) hunits
  rw [decide_eq_decide] at hsign
  omega

theorem ofInt_le_iff_of_exact {m n : Int} (hm : m.natAbs ≤ 2 ^ 53) (hn : n.natAbs ≤ 2 ^ 53) :
    ofInt m ≤ ofInt n ↔ m ≤ n := by
  rw [ofInt_le_iff]
  exact or_iff_left_of_imp fun same => (eq_of_ofInt_eq hm hn same).le

end Integers

end Vetting.Double
