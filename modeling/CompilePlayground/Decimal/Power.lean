namespace CompilePlayground

/-!
# Powers of two and of ten
-/

/-- Two to some power. -/
abbrev twoTo (exponent : Nat) : Nat :=
  Nat.pow 2 exponent

/-- Ten to some power. -/
abbrev tenTo (exponent : Nat) : Nat :=
  Nat.pow 10 exponent

/-- A power of two is not zero. -/
theorem twoTo_pos (exponent : Nat) : 0 < twoTo exponent :=
  Nat.pow_pos (by decide)

end CompilePlayground
