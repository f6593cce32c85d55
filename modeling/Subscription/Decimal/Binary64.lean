/-!
# Finite double-precision numbers

A `Binary64` is a finite IEEE 754 double: a sign, a significand below `2 ^ 53` and a power of two.
The representation is unique up to the sign of zero. Rounding is exact arithmetic on natural
numbers: `Binary64.ofRatio?` gives the double nearest to a quotient, the even one of two equally
near, and nothing when the quotient lies beyond the largest double.
-/

namespace Subscription

namespace Binary64

/-- The least number of 53 bits, `2 ^ 52`. -/
def leastFull : Nat := 0x10000000000000

/-- The significand is the whole of the 53 bits, unless the exponent is the least one. -/
def Canonical (significand : Nat) (exponent : Int) : Prop :=
  significand < 2 * leastFull ∧ -1074 ≤ exponent ∧ exponent ≤ 971 ∧
    (leastFull ≤ significand ∨ exponent = -1074)

end Binary64

instance (significand : Nat) (exponent : Int) :
    Decidable (Binary64.Canonical significand exponent) :=
  inferInstanceAs (Decidable (_ ∧ _))

/-- A finite double: `significand * 2 ^ exponent`, with a sign. -/
structure Binary64 where
  negative : Bool
  significand : Nat
  exponent : Int
  canonical : Binary64.Canonical significand exponent
  deriving DecidableEq, Repr

namespace Binary64

/-- Zero, with either sign. -/
def zero (negative : Bool) : Binary64 := ⟨negative, 0, -1074, by decide⟩

/-- Whether the number is one of the two zeros. -/
def isZero (x : Binary64) : Bool := x.significand == 0

/-- Numeric equality: the sign of zero does not count. -/
def equal (x y : Binary64) : Bool := x == y || (x.isZero && y.isZero)

/-! ### Rounding -/

/-- The integer nearest to `numerator / denominator`; of two equally near, the even one. -/
def roundHalfEven (numerator denominator : Nat) : Nat :=
  let quotient := numerator / denominator
  let remainder := numerator % denominator
  if 2 * remainder < denominator then quotient
  else if denominator < 2 * remainder then quotient + 1
  else if quotient % 2 = 0 then quotient else quotient + 1

/-- `numerator / denominator / 2 ^ exponent` as a quotient of natural numbers. -/
def scale (numerator denominator : Nat) : Int → Nat × Nat
  | .ofNat e => (numerator, denominator <<< e)
  | .negSucc e => (numerator <<< (e + 1), denominator)

/-- The exponent at which the significand of a positive quotient has 53 bits, but never less than
the least exponent of a double. -/
def exponentOf (numerator denominator : Nat) : Int :=
  let guess : Int := (Nat.log2 numerator : Int) - (Nat.log2 denominator : Int) - 52
  let (n, d) := scale numerator denominator guess
  max (-1074) (if n < d * leastFull then guess - 1 else guess)

/-- The double nearest to a quotient of natural numbers, with the given sign; of two equally near
the one with the even significand. Nothing beyond the largest double. -/
def ofRatio? (negative : Bool) (numerator denominator : Nat) : Option Binary64 :=
  if numerator = 0 then some (zero negative)
  else
    let exponent := exponentOf numerator denominator
    let (n, d) := scale numerator denominator exponent
    let rounded := roundHalfEven n d
    let (significand, exponent) :=
      if rounded = 2 * leastFull then (leastFull, exponent + 1) else (rounded, exponent)
    if h : Canonical significand exponent then some ⟨negative, significand, exponent, h⟩ else none

/-- The double nearest to a natural number. -/
def ofNat? (n : Nat) : Option Binary64 := ofRatio? false n 1

/-- The magnitude as a quotient of natural numbers. -/
def ratio (x : Binary64) : Nat × Nat :=
  match x.exponent with
  | .ofNat e => (x.significand <<< e, 1)
  | .negSucc e => (x.significand, 1 <<< (e + 1))

/-- The product, rounded. -/
def mul? (x y : Binary64) : Option Binary64 :=
  let (a, b) := x.ratio
  let (c, d) := y.ratio
  ofRatio? (x.negative != y.negative) (a * c) (b * d)

/-- The quotient by a number other than zero, rounded. -/
def div? (x y : Binary64) : Option Binary64 :=
  let (a, b) := x.ratio
  let (c, d) := y.ratio
  ofRatio? (x.negative != y.negative) (a * d) (b * c)

end Binary64

end Subscription
