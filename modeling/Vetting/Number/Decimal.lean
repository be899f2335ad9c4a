import Vetting.Number.Double

namespace Vetting.Double

-- The largest power of ten that is a finite double.
def maxTenPow : Nat := 308

private def raise? (d : Double) (n : Nat) : Option Double :=
  if n ≤ maxTenPow then do d.mul? (← tenPow? n)
  else if d.isZero then some d
  else none

private def lowerOnce (d : Double) (n : Nat) : Double :=
  match tenPow? n with
  | some ten => (d.div? ten).getD d
  | none => d

-- Division by a power of ten in steps of at most 308 places; after three of them nothing is left
-- of any 64-bit word.
private def lower (d : Double) (n : Nat) : Double :=
  if n ≤ maxTenPow then lowerOnce d n
  else if n ≤ 2 * maxTenPow then lowerOnce (lowerOnce d maxTenPow) (n - maxTenPow)
  else zero d.negative

-- The double read from `word · 10 ^ exponent`; none if it overflows. The word is rounded to a
-- double, which is then multiplied or divided by the double nearest to the power of ten, so the
-- answer can differ from the nearest double in its last place.
def ofDecimal? (negative : Bool) (word : Nat) (exponent : Int) : Option Double := do
  let start ← ofRatio? negative word 1
  if exponent < 0 then some (lower start exponent.natAbs)
  else raise? start exponent.natAbs

end Vetting.Double
