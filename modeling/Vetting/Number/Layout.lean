import Vetting.Number.Shortest

namespace Vetting

structure Layout where
  -- Whether a number whose leading digit has this decimal exponent is written without an exponent.
  positional : Int → Bool
  -- What follows the digits of a whole number.
  wholeSuffix : String

namespace Layout

-- Values repeated from a document keep their kind: a double has a point or an exponent.
def echo : Layout where
  positional exponent := -5 ≤ exponent && exponent < 16
  wholeSuffix := ".0"

-- Bounds in messages are written out in full.
def plain : Layout where
  positional _ := true
  wholeSuffix := ""

private def zeros (n : Nat) : String := String.ofList (List.replicate n '0')

-- An exponent has a sign and at least two digits.
private def exponentText (exponent : Int) : String :=
  let digits := toString exponent.natAbs
  (if exponent < 0 then "e-" else "e+") ++ (if digits.length < 2 then "0" else "") ++ digits

private def positionalText (layout : Layout) (d : Decimal) : String :=
  let digits := toString d.digits
  if 0 ≤ d.exponent then digits ++ zeros d.exponent.toNat ++ layout.wholeSuffix
  else
    let places := d.exponent.natAbs
    if places < digits.length then
      String.ofList (digits.toList.take (digits.length - places)) ++ "." ++
        String.ofList (digits.toList.drop (digits.length - places))
    else "0." ++ zeros (places - digits.length) ++ digits

private def scientificText (d : Decimal) : String :=
  let digits := (toString d.digits).toList
  let rest := digits.drop 1
  String.ofList (digits.take 1) ++ (if rest.isEmpty then "" else "." ++ String.ofList rest) ++
    exponentText (d.exponent + rest.length)

-- The text of a double: a minus for every negative one (zero too), then the shortest digits.
def text (layout : Layout) (d : Double) : String :=
  let decimal := Double.shortest d.rank
  let leading := decimal.exponent + ((toString decimal.digits).length : Int) - 1
  (if d.negative then "-" else "") ++
    (if layout.positional leading then positionalText layout decimal else scientificText decimal)

end Layout

end Vetting
