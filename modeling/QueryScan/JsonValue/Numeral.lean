import QueryScan.JsonValue

/-!
# Numbers in a text

A number is written as an optional minus sign, a whole part, an optional fraction and an
optional exponent. Without fraction and exponent it is a whole number, if it fits 64 bits
with or without a sign; zero with a minus sign and everything else is in double precision.

A number in double precision is read in three roundings at most. Digits are taken as long as
the whole number that they make is below `2 ^ 64`; of the digits that are left over, those
before the point count as zeros and those behind it not at all. This whole number and a power
of ten are both rounded, and then multiplied or divided, in steps of `308` places. So the
result is exact for short numbers and may miss the nearest number for long ones. A number
that is too large for double precision is refused.

## Main results

* `Numeral.absorb_of_lt`: digits that make a number that fits are all taken.
* `Numeral.value?_natural`: a whole number that fits is read as itself.
-/

namespace QueryScan

/-- A number as it is written. -/
structure Numeral where
  /-- Whether there is a minus sign. -/
  negative : Bool
  /-- The digits before the point. -/
  whole : List Char
  /-- The digits behind the point, if there is one. -/
  fraction : List Char
  /-- The exponent, if there is one. -/
  exponent : Option Int
  deriving DecidableEq, Repr

namespace Numeral

/-! ### The parts of a number -/

/-- The digits at the front of a text, and the rest of it. -/
def digits (cs : List Char) : List Char × List Char :=
  (cs.takeWhile Char.isDigit, cs.dropWhile Char.isDigit)

/-- The number that some digits make, after another number. -/
def append (n : Nat) (ds : List Char) : Nat :=
  ds.foldl (fun n d => 10 * n + (d.toNat - '0'.toNat)) n

/-- The whole part: digits without needless zeros in front. -/
def whole? (cs : List Char) : Option (List Char × List Char) :=
  match digits cs with
  | ([], _) => none
  | ('0' :: _ :: _, _) => none
  | parts => some parts

/-- The fraction: a point and at least one digit, or nothing. -/
def fraction? : List Char → Option (List Char × List Char)
  | '.' :: cs =>
    match digits cs with
    | ([], _) => none
    | parts => some parts
  | cs => some ([], cs)

/-- The exponent without its mark: an optional sign and digits, up to the end. -/
def exponentDigits? (cs : List Char) : Option Int :=
  let (negative, cs) : Bool × List Char := match cs with
    | '+' :: cs => (false, cs)
    | '-' :: cs => (true, cs)
    | cs => (false, cs)
  match digits cs with
  | ([], _) => none
  | (ds, []) => some (if negative then -(append 0 ds : Int) else append 0 ds)
  | _ => none

/-- The exponent: a mark and what follows it, or nothing. -/
def exponent? : List Char → Option (Option Int)
  | [] => some none
  | c :: cs => if c = 'e' ∨ c = 'E' then (exponentDigits? cs).map some else none

/-- The number that a text is, from the first character to the last. -/
def ofText? (cs : List Char) : Option Numeral := do
  let (negative, cs) : Bool × List Char := match cs with
    | '-' :: cs => (true, cs)
    | cs => (false, cs)
  let (whole, cs) ← whole? cs
  let (fraction, cs) ← fraction? cs
  let exponent ← exponent? cs
  return ⟨negative, whole, fraction, exponent⟩

/-! ### The value of a number -/

/-- Whole numbers up to here can be read, and as many digits are taken of others. -/
def limit : Nat := Nat.pow 2 64

/-- Takes digits after a number as long as it stays below the limit, and returns the digits
that are left over. -/
def absorb (n : Nat) : List Char → Nat × List Char
  | [] => (n, [])
  | d :: ds => if append n [d] < limit then absorb (append n [d]) ds else (n, d :: ds)

/-- The powers of ten that are used for reading reach up to here. -/
def greatestTen : Nat := 308

/-- A power of ten. -/
def ten? (n : Nat) : Option Double :=
  Double.ofNat? (Nat.pow 10 n)

/-- A number times a power of ten, unless it is too large. -/
def shiftUp (x : Double) (n : Nat) : Option Double :=
  if n ≤ greatestTen then (ten? n).bind x.mul?
  else if x.isZero then some x
  else none

/-- A number divided by a power of ten that is used for reading. -/
def divideTen? (x : Double) (n : Nat) : Option Double :=
  (ten? n).bind x.div?

/-- A number divided by the greatest power of ten as often as the last argument says, and
then by another one. Zero is not divided any further. -/
def divideSteps (x : Double) (last : Nat) : Nat → Option Double
  | 0 => divideTen? x last
  | steps + 1 =>
    if x.isZero then some x
    else (divideTen? x greatestTen).bind fun y => divideSteps y last steps

/-- A number divided by a power of ten, in steps of at most the greatest power. -/
def shiftDown (x : Double) (n : Nat) : Option Double :=
  let steps := (n - 1) / greatestTen
  divideSteps x (n - steps * greatestTen) steps

/-- The number in double precision, without its sign. -/
def magnitude? (n : Numeral) : Option Double :=
  let (taken, left) := absorb 0 n.whole
  let (significand, dropped) := absorb taken n.fraction
  let exponent := (left.length : Int) - (n.fraction.length - dropped.length) + n.exponent.getD 0
  (Double.ofNat? significand).bind fun x =>
    if 0 ≤ exponent then shiftUp x exponent.toNat else shiftDown x (-exponent).toNat

/-- The whole number, if it is one that fits. -/
def integer? (n : Numeral) : Option Int :=
  let m := append 0 n.whole
  if !n.fraction.isEmpty || n.exponent.isSome then none
  else if n.negative then if 0 < m ∧ 2 * m ≤ limit then some (-m) else none
  else if m < limit then some m else none

/-- The value of a number, unless it is too large. -/
def value? (n : Numeral) : Option JsonValue :=
  match n.integer? with
  | some i => some (.integer i)
  | none => n.magnitude?.map (.float n.negative)

/-- Digits that make a number below the limit are all taken. -/
theorem absorb_of_lt {n : Nat} {ds : List Char} (h : append n ds < limit) :
    absorb n ds = (append n ds, []) := by
  induction ds generalizing n with
  | nil => rfl
  | cons d ds ih =>
    have hgrow : ∀ (m : Nat) (es : List Char), m ≤ append m es := by
      intro m es
      induction es generalizing m with
      | nil => exact Nat.le_refl m
      | cons e es ih =>
        have := ih (10 * m + (e.toNat - '0'.toNat))
        change m ≤ append (10 * m + (e.toNat - '0'.toNat)) es
        omega
    have hd : append n [d] < limit := Nat.lt_of_le_of_lt (hgrow _ ds) h
    rw [absorb, if_pos hd]
    exact ih h

/-- A whole number that fits is read as itself. -/
theorem value?_natural {ds : List Char} (h : append 0 ds < limit) :
    value? ⟨false, ds, [], none⟩ = some (.integer (append 0 ds)) := by
  simp [value?, integer?, h]

end Numeral

end QueryScan
