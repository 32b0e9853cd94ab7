import CompilePlayground.Service.Turn

namespace CompilePlayground.Service

/-!
# Names of jobs

The name of a job ends in the number of its ticket, written in hexadecimal. A number can be
read back from the way it is written, so that no two tickets share a name.
-/

/-- The number that digits stand for. -/
def digitsValue (digits : List Char) : Nat :=
  digits.foldl (fun value digit => 16 * value + (Network.hexValue? digit).getD 0) 0

theorem hexValue?_digitChar
    {number : Nat}
    (small : number < 16) :
    Network.hexValue? number.digitChar = some number := by
  decide +revert

/-- One more digit counts the others sixteen times. -/
theorem digitsValue_snoc (digits : List Char) (digit : Char) :
    digitsValue (digits ++ [digit]) =
      16 * digitsValue digits + (Network.hexValue? digit).getD 0 := by
  simp [digitsValue]

theorem digitsValue_zeros (count : Nat) (digits : List Char) :
    digitsValue (List.replicate count '0' ++ digits) = digitsValue digits := by
  induction count with
  | zero =>
      rfl
  | succ count inductionHypothesis =>
      exact inductionHypothesis

/-- The digits of a number stand for it. -/
theorem digitsValue_toDigits (number : Nat) :
    digitsValue (Nat.toDigits 16 number) = number := by
  induction number using Nat.strongRecOn with
  | ind number inductionHypothesis =>
      by_cases small : number < 16
      · rw [Nat.toDigits_of_lt_base small]
        simp [digitsValue, hexValue?_digitChar small]
      · have shorter : number / 16 < number := by omega
        rw [Nat.toDigits_of_base_le (by decide) (Nat.le_of_not_lt small), digitsValue_snoc,
          inductionHypothesis _ shorter, hexValue?_digitChar (Nat.mod_lt _ (by decide)),
          Option.getD_some]
        omega

/-- Jobs of different tickets have different names. -/
theorem jobName_injective
    {first second : Nat}
    (same : jobName first = jobName second) :
    first = second := by
  have texts : hexadecimal 12 first = hexadecimal 12 second := by
    unfold jobName at same
    exact (String.append_right_inj _).1 same
  have digits := congrArg (fun text => digitsValue text.toList) texts
  simpa only [hexadecimal, String.toList_ofList, digitsValue_zeros, digitsValue_toDigits]
    using digits

end CompilePlayground.Service
