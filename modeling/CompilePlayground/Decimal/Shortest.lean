import CompilePlayground.Decimal.Binary64

namespace CompilePlayground.Decimal

/-!
# The shortest decimal that reads back

A double stands for all the real numbers that round to it. The shortest decimal
in that interval is found on one decimal grid after the other, from one digit to
seventeen: of the two neighbours of the exact value on a grid, those inside the
interval are candidates, and the nearer one is taken.
-/

/-- A positive decimal `digits * 10 ^ exponent`. -/
structure Shortest where
  digits : Nat
  exponent : Int
  deriving Repr, DecidableEq

/-- The numbers that round to a double: the value and the ends of its interval, all
over one denominator. -/
structure Interval where
  low : Nat
  value : Nat
  high : Nat
  denominator : Nat
  closed : Bool
  deriving Repr, DecidableEq

/-- The interval of a positive double. Below a power of two the neighbours are half
as far away, but for the least normal number. -/
def Interval.ofDouble (double : Binary64) : Interval :=
  let step := twoTo double.scale
  { low :=
      4 * double.units -
        (if double.significand = twoTo 52 ∧ 0 < double.scale then step else 2 * step)
    value := 4 * double.units
    high := 4 * double.units + 2 * step
    denominator := 4 * twoTo 1074
    closed := double.significand % 2 = 0 }

/-- Whether `numerator / denominator`, given over the interval's denominator times
`factor`, lies inside. -/
def Interval.holds (interval : Interval) (point factor : Nat) : Bool :=
  if interval.closed then
    interval.low * factor ≤ point && point ≤ interval.high * factor
  else
    interval.low * factor < point && point < interval.high * factor

/-- The candidate on the grid of multiples of `10 ^ exponent`, if one of the two
neighbours of the value lies in the interval. -/
def Interval.onGrid? (interval : Interval) (exponent : Int) : Option Shortest :=
  -- one grid step over the common denominator, and what that denominator grew by
  let step := interval.denominator * tenTo exponent.toNat
  let factor := tenTo (-exponent).toNat
  let exact := interval.value * factor
  let below := exact / step
  let above := below + 1
  let belowHolds := 0 < below && interval.holds (below * step) factor
  let aboveHolds := interval.holds (above * step) factor
  let belowDistance := exact - below * step
  let aboveDistance := above * step - exact
  if belowHolds && aboveHolds then
    if belowDistance < aboveDistance then some ⟨below, exponent⟩
    else if aboveDistance < belowDistance then some ⟨above, exponent⟩
    else if below % 2 = 0 then some ⟨below, exponent⟩
    else some ⟨above, exponent⟩
  else if belowHolds then some ⟨below, exponent⟩
  else if aboveHolds then some ⟨above, exponent⟩
  else none

/-- The decimal exponent of the leading digit of `numerator / denominator`. -/
def leadingExponent (numerator denominator : Nat) : Int :=
  if denominator ≤ numerator then
    (Nat.toDigits 10 (numerator / denominator)).length - 1
  else
    let inverse := (denominator + numerator - 1) / numerator
    Int.negOfNat (Nat.toDigits 10 (inverse - 1)).length

/-- The first candidate on the grids from `exponent` downwards. -/
def Interval.search (interval : Interval) (exponent : Int) : Nat → Shortest
  | 0 => ⟨interval.value / interval.denominator, 0⟩
  | grids + 1 =>
      match interval.onGrid? exponent with
      | some found => found
      | none => interval.search (exponent - 1) grids

/-- The same decimal without trailing zeros among its digits. -/
def Shortest.strip (shortest : Shortest) : Nat → Shortest
  | 0 => shortest
  | steps + 1 =>
      if 0 < shortest.digits ∧ shortest.digits % 10 = 0 then
        Shortest.strip ⟨shortest.digits / 10, shortest.exponent + 1⟩ steps
      else
        shortest

/-- The shortest decimal that reads back as a positive double. -/
def Shortest.ofDouble (double : Binary64) : Shortest :=
  let interval := Interval.ofDouble double
  let leading := leadingExponent interval.value interval.denominator
  (interval.search (leading + 1) 20).strip 20

end CompilePlayground.Decimal
