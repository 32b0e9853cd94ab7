import CompilePlayground.Service.RateLimit

namespace CompilePlayground

open Network

/-!
# Allowances

What a limit keeps for a client tells how many requests the client may still send at once. A
request that is let through takes one from its own client's allowance, and none from another's.
-/

namespace Quota

/-- A rate of at most one request each nanosecond has a quota of its own. -/
theorem ofRate?_eq
    {rate : Nat}
    (positive : 0 < rate)
    (bounded : rate ≤ second) :
    ofRate? rate = some ⟨rate, second / rate⟩ := by
  have period : second / rate ≠ 0 :=
    Nat.ne_of_gt (Nat.div_pos bounded positive)
  have burst : min rate burstLimit = rate := by
    unfold second at bounded
    unfold burstLimit
    omega
  simp [ofRate?, Nat.ne_of_gt positive, period, burst]

end Quota

namespace RateLimit

/-- How many more requests a client may send at once. -/
def allowance (limit : RateLimit) (now : Nat) (client : Address) : Nat :=
  (now + (limit.quota.burst + 1) * limit.quota.period - max (limit.dueAt now client) now)
    / limit.quota.period

/-- A client that has not come up to a limit has all of its allowance. -/
theorem allowance_ofQuota
    {quota : Quota}
    (positive : 0 < quota.period)
    (now : Nat)
    (client : Address) :
    (ofQuota quota).allowance now client = quota.burst := by
  have left : now + (quota.burst + 1) * quota.period - max (now + quota.period) now =
      quota.burst * quota.period := by
    rw [Nat.succ_mul]
    omega
  have due : (ofQuota quota).dueAt now client = now + quota.period :=
    rfl
  rw [allowance, due]
  change (now + (quota.burst + 1) * quota.period - max (now + quota.period) now) / quota.period = _
  rw [left, Nat.mul_div_cancel _ positive]

variable {limit : RateLimit} {now : Nat} {client other : Address}

/-- A request is let through as long as there is some allowance left. -/
theorem admits_iff (positive : 0 < limit.quota.period) :
    limit.admits now client = true ↔ 0 < limit.allowance now client := by
  have room (due burst period : Nat) (positive : 0 < period) :
      due ≤ now + burst ↔
        0 < period ∧ period ≤ now + (burst + period) - max due now := by
    omega
  rw [admits, decide_eq_true_eq, room _ _ _ positive, allowance, Nat.succ_mul, Nat.div_pos_iff]

/-- A client that comes back once its next request is due may send one more than at first. -/
theorem allowance_of_due
    (positive : 0 < limit.quota.period)
    (due : limit.dueAt now client ≤ now) :
    limit.allowance now client = limit.quota.burst + 1 := by
  rw [allowance, Nat.max_eq_right due, Nat.add_sub_cancel_left, Nat.mul_div_cancel _ positive]

/-- A request that is let through takes one from its client's allowance. -/
theorem allowance_spend_self :
    (limit.spend now client).allowance now client = limit.allowance now client - 1 := by
  have later (due period : Nat) : max (max due now + period) now = max due now + period := by
    omega
  have quota : (limit.spend now client).quota = limit.quota :=
    rfl
  have due : (limit.spend now client).dueAt now client = limit.dueAfter now client := by
    rw [dueAt, lookup_spend_self, Option.getD_some]
  rw [allowance, due, quota, dueAfter, later, ← Nat.sub_sub, allowance]
  simpa using Nat.sub_mul_div _ limit.quota.period 1

/-- A request leaves the allowances of other clients as they are. -/
theorem allowance_spend_of_ne (differs : other ≠ client) :
    (limit.spend now client).allowance now other = limit.allowance now other := by
  have quota : (limit.spend now client).quota = limit.quota :=
    rfl
  simp only [allowance, dueAt, lookup_spend_of_ne limit now differs, quota]

end RateLimit

end CompilePlayground
