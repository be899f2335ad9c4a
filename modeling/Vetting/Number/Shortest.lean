import Vetting.Number.Double

namespace Vetting

-- The number `digits · 10 ^ exponent`.
structure Decimal where
  digits : Nat
  exponent : Int
deriving DecidableEq, Repr, Inhabited

namespace Decimal

-- The same number without trailing zeros.
def trimmed (fuel : Nat) (d : Decimal) : Decimal :=
  match fuel with
  | 0 => d
  | fuel + 1 =>
    if d.digits != 0 && d.digits % 10 == 0 then
      trimmed fuel ⟨d.digits / 10, d.exponent + 1⟩
    else d

end Decimal

namespace Double

-- The decimal exponent of the leading digit of a positive magnitude.
def leadingExponent (units : Nat) : Int :=
  ((Nat.toDigits 10 (units * Nat.pow 10 324 / (1 <<< 1074))).length : Int) - 325

-- The multiple of `10 ^ place` nearest to the magnitude at a rank, among the (at most two)
-- neighbouring ones that round to that rank. All lengths are in half units of 2⁻¹⁰⁷⁵, and the ends
-- of the rounding interval belong to it for an even significand.
def roundedAt? (rank : Nat) (place : Int) : Option Nat :=
  let value := 2 * unitsAt rank
  let above := 1 <<< scale rank
  let below := if significand rank == 1 <<< 52 && scale rank != 0 then above / 2 else above
  let even := significand rank % 2 == 0
  let grid := Nat.pow 10 place.toNat <<< 1075
  let stretch := Nat.pow 10 (-place).toNat
  let inside (point : Nat) : Bool :=
    if even then (value - below) * stretch ≤ point && point ≤ (value + above) * stretch
    else (value - below) * stretch < point && point < (value + above) * stretch
  let low := value * stretch / grid
  let rest := value * stretch % grid
  match inside (low * grid), inside ((low + 1) * grid) with
  | true, true =>
    let lowIsNearer := 2 * rest < grid || (2 * rest == grid && low % 2 == 0)
    some (if lowIsNearer then low else low + 1)
  | true, false => some low
  | false, true => some (low + 1)
  | false, false => none

-- The shortest decimal of a magnitude: the first number of digits, from one to seventeen, with
-- which some decimal rounds to the rank.
def shortest (rank : Nat) : Decimal :=
  if rank == 0 then ⟨0, 0⟩
  else
    let leading := leadingExponent (unitsAt rank)
    let found := (List.range 17).findSome? fun (count : Nat) =>
      let place := leading - count
      (roundedAt? rank place).map fun digits => Decimal.trimmed 18 ⟨digits, place⟩
    found.getD ⟨0, 0⟩

end Double

end Vetting
