import CompilePlayground.Decimal.Power

namespace CompilePlayground.Time

/-!
# Spans of time

A span is a count of nanoseconds. It is written in the largest unit whose whole
part is not zero, with a fraction that has no trailing zeros.
-/

/-- A length of time. -/
structure Span where
  nanoseconds : Nat
  deriving Repr, DecidableEq

/-- A span of whole seconds. -/
def Span.ofSeconds (seconds : Nat) : Span :=
  ⟨seconds * 1000000000⟩

/-- A span of whole milliseconds. -/
def Span.ofMilliseconds (milliseconds : Nat) : Span :=
  ⟨milliseconds * 1000000⟩

/-- The digits of a count below `10 ^ places`, with leading zeros and without
trailing ones. -/
def fractionDigits (places count : Nat) : List Char :=
  let digits := (Nat.toDigits 10 count)
  let padded := List.replicate (places - digits.length) '0' ++ digits
  (padded.reverse.dropWhile (· == '0')).reverse

/-- A count of parts of which `10 ^ places` make one unit, as a decimal. -/
def writeDecimal (places count : Nat) : String :=
  let whole := count / tenTo places
  let part := count % tenTo places
  if part = 0 then
    toString whole
  else
    toString whole ++ "." ++ String.ofList (fractionDigits places part)

/-- A unit that spans are written in: its sign, and how many decimal places of it
are nanoseconds. -/
structure ScaleUnit where
  sign : String
  places : Nat
  deriving Repr, DecidableEq

/-- The largest unit of which a span holds at least one; nanoseconds for less. -/
def Span.unit (span : Span) : ScaleUnit :=
  if 1000000000 ≤ span.nanoseconds then ⟨"s", 9⟩
  else if 1000000 ≤ span.nanoseconds then ⟨"ms", 6⟩
  else if 1000 ≤ span.nanoseconds then ⟨"\u00b5s", 3⟩
  else ⟨"ns", 0⟩

/-- The text of a span, such as `10s`, `1.5ms` or `0ns`. -/
def Span.write (span : Span) : String :=
  writeDecimal span.unit.places span.nanoseconds ++ span.unit.sign

end CompilePlayground.Time
