/-!
# Double-precision numbers

A number with a fraction is kept in double precision: as a significand of at most 53 bits
times a power of two. Only finite numbers are needed, and the sign is kept apart from the
number, so that zero has one as well.

An operation takes its exact result and rounds it once, to the nearest number of this form;
of two that are equally near, to the one with the even significand. A result that is too
large to be rounded to any of them is refused.

## Main results

* `roundDiv_near`: a rounded quotient is at most half a unit from the exact one.
* `roundDiv_mul_self`: a quotient that is whole is not changed by rounding.
-/

namespace QueryScan

/-- A finite double-precision number without its sign. -/
structure Double where
  /-- The whole number that is scaled. -/
  significand : Nat
  /-- The power of two by which it is scaled. -/
  exponent : Int
  deriving DecidableEq, Repr

/-- The quotient `n / d`, rounded to a whole number; a half goes to the even neighbour. -/
def roundDiv (n d : Nat) : Nat :=
  if 2 * (n % d) < d ∨ 2 * (n % d) = d ∧ n / d % 2 = 0 then n / d else n / d + 1

/-- A rounded quotient is at most half a unit from the exact one. -/
theorem roundDiv_near (n : Nat) {d : Nat} (h : 0 < d) :
    2 * (d * roundDiv n d) ≤ 2 * n + d ∧ 2 * n ≤ 2 * (d * roundDiv n d) + d := by
  have hsum : d * (n / d) + n % d = n := Nat.div_add_mod n d
  have hrest : n % d < d := Nat.mod_lt n h
  rw [roundDiv]
  split
  · omega
  · rw [Nat.mul_add, Nat.mul_one]
    omega

/-- A quotient that is whole is not changed by rounding. -/
theorem roundDiv_mul_self (n : Nat) {d : Nat} (h : 0 < d) : roundDiv (d * n) d = n := by
  rw [roundDiv, Nat.mul_mod_right, Nat.mul_div_cancel_left n h, if_pos (.inl (by omega))]

namespace Double

/-- The most bits of a significand. -/
def precision : Nat := 53

/-- The least exponent. -/
def leastExponent : Int := -1074

/-- The greatest exponent. -/
def greatestExponent : Int := 971

/-- Zero. -/
def zero : Double := ⟨0, leastExponent⟩

/-- Whether a number is zero. -/
def isZero (x : Double) : Bool :=
  x.significand == 0

/-- The numerator and the denominator of `n / d * 2 ^ e`. -/
def scaled (n d : Nat) (e : Int) : Nat × Nat :=
  (n * Nat.pow 2 e.toNat, d * Nat.pow 2 (-e).toNat)

/-- The exponent with which `n / d` has a significand of 53 bits before the point, or the
least exponent if it is smaller than that. -/
def exponentOf (n d : Nat) : Int :=
  let e := max ((n.log2 : Int) - d.log2 - precision) leastExponent
  let (a, b) := scaled n d (-e)
  if a / b < Nat.pow 2 precision then e else e + 1

/-- The number nearest to `n / d`, unless it is too large. A significand that is rounded up
to 54 bits is even, and is halved. -/
def nearest? (n d : Nat) : Option Double :=
  if n = 0 then some zero
  else
    let e := exponentOf n d
    let (a, b) := scaled n d (-e)
    let m := roundDiv a b
    let x : Double := if m < Nat.pow 2 precision then ⟨m, e⟩ else ⟨m / 2, e + 1⟩
    if x.exponent ≤ greatestExponent then some x else none

/-- The number nearest to a whole number, unless it is too large. -/
def ofNat? (n : Nat) : Option Double :=
  nearest? n 1

/-- The number nearest to a product, unless it is too large. -/
def mul? (x y : Double) : Option Double :=
  let (a, b) := scaled (x.significand * y.significand) 1 (x.exponent + y.exponent)
  nearest? a b

/-- The number nearest to a quotient, unless it is too large. -/
def div? (x y : Double) : Option Double :=
  let (a, b) := scaled x.significand y.significand (x.exponent - y.exponent)
  nearest? a b

end Double

end QueryScan
