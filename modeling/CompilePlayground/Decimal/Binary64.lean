import CompilePlayground.Decimal.Power

namespace CompilePlayground.Decimal

/-!
# Double precision numbers in exact arithmetic

A finite double is `significand * 2 ^ exponent`, with a significand below `2 ^ 53`
and an exponent of at least `-1074`. A quotient of natural numbers is rounded to
the nearest one, and on a tie to the even one. The arithmetic is that of natural
numbers, so that statements about it need no facts about machine floats.
-/

/-- The magnitude of a finite double: `significand * 2 ^ (scale - 1074)`. -/
structure Binary64 where
  significand : Nat
  scale : Nat
  deriving Repr, DecidableEq

namespace Binary64

/-- The magnitude zero. -/
def zero : Binary64 :=
  ⟨0, 0⟩

/-- Round a quotient to the nearest natural number, and a tie to the even one. -/
def roundQuotient (numerator denominator : Nat) : Nat :=
  let quotient := numerator / denominator
  let remainder := numerator % denominator
  if 2 * remainder < denominator then quotient
  else if denominator < 2 * remainder then quotient + 1
  else if quotient % 2 = 0 then quotient
  else quotient + 1

/-- The scale at which `numerator / denominator` has 53 significant bits, or the
least scale for less. The quotient is given in units of `2 ^ (-1074)`. -/
def scaleFor (numerator denominator : Nat) : Nat :=
  let bits := (numerator / denominator).log2 + 1
  bits - 53

/-- The largest scale of a finite double. -/
def maxScale : Nat := 2045

/-- The double nearest to `numerator / denominator`; none beyond the greatest. -/
def ofQuotient? (numerator denominator : Nat) : Option Binary64 :=
  let units := numerator * twoTo 1074
  let scale := scaleFor units denominator
  let significand := roundQuotient units (denominator * twoTo scale)
  let rounded : Binary64 :=
    if significand = twoTo 53 then ⟨twoTo 52, scale + 1⟩ else ⟨significand, scale⟩
  if rounded.scale ≤ maxScale then some rounded else none

/-- The double nearest to a natural number. -/
def ofNat? (value : Nat) : Option Binary64 :=
  ofQuotient? value 1

/-- The value as a numerator over `2 ^ 1074`. -/
def units (double : Binary64) : Nat :=
  double.significand * twoTo double.scale

/-- The rounded product of two doubles; none beyond the greatest double. -/
def mul? (left right : Binary64) : Option Binary64 :=
  ofQuotient? (left.units * right.units) (twoTo (1074 + 1074))

/-- The rounded quotient of two doubles; the divisor is not zero. -/
def div? (left right : Binary64) : Option Binary64 :=
  ofQuotient? left.units right.units

/-- The rounded sum of two doubles; none beyond the greatest double. -/
def add? (left right : Binary64) : Option Binary64 :=
  ofQuotient? (left.units + right.units) (twoTo 1074)

end Binary64

end CompilePlayground.Decimal
