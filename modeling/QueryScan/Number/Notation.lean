import QueryScan.Number.Shortest

/-!
# How numbers are written

A number is written with the digits of its shortest decimal. From `0.00001` up to but not
including `10 ^ 16` the point stands in its place, with at least one digit on each side;
otherwise there is one digit before the point, no point at all if there is only one digit,
and an exponent with its sign.
-/

namespace QueryScan

namespace Decimal

/-- Numbers below ten to this power have the point in its place. -/
def greatestPoint : Int := 16

/-- Numbers from ten to this power on have the point in its place. -/
def leastPoint : Int := -5

/-- Whether the point stands in its place. -/
def isPlain (d : Decimal) : Bool :=
  decide (leastPoint < d.point) && decide (d.point ≤ greatestPoint)

/-- The number with the point in its place. -/
def plain (d : Decimal) : List Char :=
  let before := d.point.toNat
  let whole := d.digits.take before ++ List.replicate (before - d.digits.length) '0'
  let fraction := List.replicate (-d.point).toNat '0' ++ d.digits.drop before
  (if whole.isEmpty then ['0'] else whole) ++ '.' ::
    (if fraction.isEmpty then ['0'] else fraction)

/-- The number with an exponent. -/
def scientific (d : Decimal) : List Char :=
  let exponent := d.point - 1
  let fraction := d.digits.drop 1
  d.digits.take 1 ++ (if fraction.isEmpty then [] else '.' :: fraction) ++
    'e' :: (if exponent < 0 then '-' else '+') :: Nat.toDigits 10 exponent.natAbs

/-- The number, written out. -/
def text (d : Decimal) : List Char :=
  if d.isPlain then d.plain else d.scientific

end Decimal

/-- A number, written out. -/
def Double.text (x : Double) : String :=
  if x.isZero then "0.0" else String.ofList x.decimal.text

/-- A number with its sign, written out. -/
def Double.signedText (negative : Bool) (x : Double) : String :=
  (if negative then "-" else "") ++ x.text

end QueryScan
