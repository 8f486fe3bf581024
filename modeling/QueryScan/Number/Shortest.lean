import QueryScan.Number.Double

/-!
# Shortest decimals

Every real number near a double-precision number is rounded to it: those in an interval that
reaches half way to its neighbours. The ends belong to the interval if the significand is
even. To write the number it is enough to write any decimal in the interval, and the one
with the fewest digits is chosen; of several, the one nearest to the number, and of two that
are equally near, the one with an even last digit.

A power of two is a power of ten divided by a power of five, so the interval and the number
itself are whole numbers in proportion, and the search is for a multiple of the greatest
possible power of ten.

## Main results

* `Interval.contains_shortest`: the decimal that is found lies in the interval.
* `Interval.multiple?_eq_none`: no greater power of ten has a multiple in it that is next
  to the number.
-/

namespace QueryScan

/-- The real numbers that are rounded to one number, in whole multiples of `1 / 10 ^ places`. -/
structure Interval where
  /-- The lower end. -/
  low : Nat
  /-- The number itself. -/
  value : Nat
  /-- The upper end. -/
  high : Nat
  /-- Whether the ends belong to the interval. -/
  closed : Bool
  /-- How many decimal places there are. -/
  places : Nat
  deriving Repr

/-- The interval of a number other than zero. Below a power of two the neighbour is only half
as far away as above it, except at the least exponent. -/
def Double.interval (x : Double) : Interval :=
  let quarters := 4 * x.significand
  let below :=
    if 2 * x.significand = Nat.pow 2 precision ∧ leastExponent < x.exponent then 1 else 2
  let e := x.exponent - 2
  let factor := if 0 ≤ e then Nat.pow 2 e.toNat else Nat.pow 5 (-e).toNat
  ⟨(quarters - below) * factor, quarters * factor, (quarters + 2) * factor,
    x.significand % 2 == 0, (-e).toNat⟩

namespace Interval

/-- Whether a number lies in the interval. -/
def contains (i : Interval) (n : Nat) : Bool :=
  if i.closed then decide (i.low ≤ n) && decide (n ≤ i.high)
  else decide (i.low < n) && decide (n < i.high)

/-- A multiple of a unit that lies in the interval, counted in units: the one nearest to the
number, or else the one on the other side of it. -/
def multiple? (i : Interval) (unit : Nat) : Option Nat :=
  [roundDiv i.value unit, i.value / unit, i.value / unit + 1].find? fun n => i.contains (n * unit)

/-- The multiple of the greatest power of ten, from a given one down, that has one in the
interval, with the exponent of that power. -/
def shortest (i : Interval) : Nat → Nat × Nat
  | 0 => (i.value, 0)
  | exponent + 1 =>
    match i.multiple? (Nat.pow 10 (exponent + 1)) with
    | some n => (n, exponent + 1)
    | none => i.shortest exponent

/-- A multiple that is found lies in the interval. -/
theorem contains_of_multiple? {i : Interval} {unit n : Nat} (h : i.multiple? unit = some n) :
    i.contains (n * unit) = true :=
  List.find?_some (p := fun n => i.contains (n * unit)) h

/-- The decimal that is found lies in the interval, if the number itself does. -/
theorem contains_shortest {i : Interval} (h : i.contains i.value = true) (exponent : Nat) :
    i.contains ((i.shortest exponent).1 * Nat.pow 10 (i.shortest exponent).2) = true := by
  induction exponent with
  | zero =>
    rw [shortest]
    simpa using h
  | succ exponent ih =>
    rw [shortest]
    split
    · rename_i hn
      exact contains_of_multiple? hn
    · exact ih

/-- No greater power of ten has a multiple in the interval that is next to the number. -/
theorem multiple?_eq_none {i : Interval} {exponent k : Nat}
    (hlow : (i.shortest exponent).2 < k) (hhigh : k ≤ exponent) :
    i.multiple? (Nat.pow 10 k) = none := by
  induction exponent with
  | zero => omega
  | succ exponent ih =>
    rw [shortest] at hlow
    split at hlow
    · exact absurd hlow (by change ¬ exponent + 1 < k; omega)
    · rename_i hnone
      rcases Nat.lt_or_ge exponent k with hk | hk
      · obtain rfl : k = exponent + 1 := by omega
        exact hnone
      · exact ih hlow hk

end Interval

/-- The significant digits of a number, and the place of the decimal point: how many digits
stand before it, less the zeros between it and the first digit. -/
structure Decimal where
  /-- The significant digits. -/
  digits : List Char
  /-- The place of the point, counted from before the first digit. -/
  point : Int
  deriving DecidableEq, Repr

/-- The shortest decimal of a number other than zero. -/
def Double.decimal (x : Double) : Decimal :=
  let i := x.interval
  let (n, exponent) := i.shortest (Nat.toDigits 10 i.value).length
  let digits := Nat.toDigits 10 n
  ⟨digits, (digits.length : Int) + exponent - i.places⟩

end QueryScan
