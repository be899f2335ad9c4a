namespace Vetting

-- A finite IEEE binary64 number. Its magnitude is kept as its *rank*, its place among the
-- non-negative doubles in increasing order, so comparing magnitudes is comparing ranks. Every
-- double is a whole number of units of 2⁻¹⁰⁷⁴.
structure Double where
  negative : Bool
  rank : Nat
  rank_lt : rank < 2047 <<< 52 := by decide
deriving DecidableEq

namespace Double

instance : Inhabited Double := ⟨{ negative := false, rank := 0 }⟩

-- The number of binary places by which the significand of a rank is shifted.
def scale (rank : Nat) : Nat := (rank >>> 52) - 1

-- The significand: below 2 ^ 53, and at least 2 ^ 52 unless the double is subnormal.
def significand (rank : Nat) : Nat := rank - (scale rank <<< 52)

-- The magnitude at a rank, in units of 2⁻¹⁰⁷⁴.
def unitsAt (rank : Nat) : Nat := significand rank <<< scale rank

def units (d : Double) : Nat := unitsAt d.rank

def zero (negative : Bool) : Double := { negative, rank := 0 }

def isZero (d : Double) : Bool := d.rank == 0

-- Whether the double has no fraction.
def isWhole (d : Double) : Bool := d.units % (1 <<< 1074) == 0

-- The quotient rounded to the nearest integer, a half to the even one.
def divNearest (num den : Nat) : Nat :=
  let low := num / den
  let twice := 2 * (num % den)
  if twice < den || (twice == den && low % 2 == 0) then low else low + 1

-- The rank nearest to `num / den` units, without a bound. A significand rounded up to 2 ^ 53 gives
-- the first rank of the next binade, so nothing has to be renormalised.
def nearestRank (num den : Nat) : Nat :=
  let shift := (num / den).log2 - 52
  (shift <<< 52) + divNearest num (den <<< shift)

-- The double of a rank; none beyond the largest finite one.
def ofRank? (negative : Bool) (rank : Nat) : Option Double :=
  if h : rank < 2047 <<< 52 then some ⟨negative, rank, h⟩ else none

-- The double nearest to `num / den`, ties to the even significand.
def ofRatio? (negative : Bool) (num den : Nat) : Option Double :=
  ofRank? negative (nearestRank (num <<< 1074) den)

def largest (negative : Bool) : Double := { negative, rank := (2047 <<< 52) - 1 }

-- The double nearest to an integer, the largest finite one at most.
def ofInt (i : Int) : Double :=
  (ofRatio? (decide (i < 0)) i.natAbs 1).getD (largest (decide (i < 0)))

-- The double nearest to a power of ten.
def tenPow? (n : Nat) : Option Double := ofRatio? false (Nat.pow 10 n) 1

-- The rounded product; none on overflow.
def mul? (a b : Double) : Option Double :=
  ofRank? (a.negative != b.negative) (nearestRank (a.units * b.units) (1 <<< 1074))

-- The rounded quotient; none on overflow or division by zero.
def div? (a b : Double) : Option Double :=
  if b.isZero then none
  else ofRank? (a.negative != b.negative) (nearestRank (a.units <<< 1074) b.units)

-- The place on the number line, both zeros at the origin.
def place (d : Double) : Int := if d.negative then -(d.rank : Int) else d.rank

instance : LE Double := ⟨fun a b => a.place ≤ b.place⟩

instance (a b : Double) : Decidable (a ≤ b) := inferInstanceAs (Decidable (a.place ≤ b.place))

end Double

end Vetting
