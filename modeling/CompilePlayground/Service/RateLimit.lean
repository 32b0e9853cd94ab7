import CompilePlayground.Http.Forwarded

namespace CompilePlayground

open Network

/-!
# Limits on how often a client may ask

A client may send a number of requests at once and gets one of them back after each period.
What is kept for a client is the moment at which its next request is due, if it sent one in each
period, so that clients do not touch each other's. A request may come before it is due, but no more
than so many periods as there are requests in the number. A client that asks for the first time is
taken to have just sent one, so that one who comes back after a long time may send one more.
-/

/-- How many requests a client may send at once, and the nanoseconds after which it gets one
of them back. -/
structure Quota where
  burst : Nat
  period : Nat
  deriving Repr, DecidableEq

namespace Quota

/-- The nanoseconds of a second. -/
def second : Nat := 1000000000

/-- The greatest number of requests that can be allowed at once. -/
def burstLimit : Nat := 4294967295

/-- The quota of a number of requests each second. There is none when its period would be no
time at all, and none for no requests. -/
def ofRate? (perSecond : Nat) : Option Quota :=
  if perSecond = 0 then none
  else
    let period := second / perSecond
    let burst := min perSecond burstLimit
    if period = 0 || burst = 0 then none else some ⟨burst, period⟩

end Quota

/-- The quota, and for each client that has asked the moment at which its next request is due. -/
structure RateLimit where
  quota : Quota
  due : List (Address × Nat)
  deriving Repr, DecidableEq

namespace RateLimit

/-- A limit that no client has come up to. -/
def ofQuota (quota : Quota) : RateLimit :=
  { quota, due := [] }

/-- The moment at which the next request of a client is due. A client that has not asked yet is
taken to have just sent one. -/
def dueAt (limit : RateLimit) (now : Nat) (client : Address) : Nat :=
  (limit.due.lookup client).getD (now + limit.quota.period)

/-- Whether a client may send one more request. -/
def admits (limit : RateLimit) (now : Nat) (client : Address) : Bool :=
  limit.dueAt now client ≤ now + limit.quota.burst * limit.quota.period

/-- The moment at which the request of a client after the next one is due. -/
def dueAfter (limit : RateLimit) (now : Nat) (client : Address) : Nat :=
  max (limit.dueAt now client) now + limit.quota.period

/-- The limit after one more request of a client. -/
def spend (limit : RateLimit) (now : Nat) (client : Address) : RateLimit :=
  { limit with
    due :=
      (client, limit.dueAfter now client)
        :: limit.due.filter fun entry => entry.1 != client }

/-- A client's request moves only what is kept for that client. -/
theorem lookup_spend_of_ne
    (limit : RateLimit)
    (now : Nat)
    {client other : Address}
    (differs : other ≠ client) :
    (limit.spend now client).due.lookup other = limit.due.lookup other := by
  have apart : (other == client) = false := by simpa using differs
  simp only [spend, List.lookup_cons, apart]
  induction limit.due with
  | nil => rfl
  | cons entry rest hypothesis =>
    obtain ⟨key, value⟩ := entry
    by_cases same : key = client
    · subst same
      simpa [List.lookup_cons, apart] using hypothesis
    · by_cases here : other = key <;> simp_all [List.lookup_cons]

/-- What is kept for a client after its request. -/
theorem lookup_spend_self
    (limit : RateLimit)
    (now : Nat)
    (client : Address) :
    (limit.spend now client).due.lookup client = some (limit.dueAfter now client) := by
  simp [spend]

end RateLimit

/-- The endings of requests that a limit does not let through. -/
inductive Refusal where
  | tooMany
  | unknownClient
  deriving Repr, DecidableEq

namespace Refusal

/-- The response to a request that is not let through. The wait is shorter than a second, so
that no whole second of it is left. -/
def response : Refusal → Http.Response
  | .tooMany =>
    ⟨429, [.ofText "retry-after" "0", .ofText "x-ratelimit-after" "0"],
      Text.Utf8.encode "Too Many Requests! Wait for 0s"⟩
  | .unknownClient => ⟨500, [], Text.Utf8.encode "Unable To Extract Key!"⟩

end Refusal

namespace RateLimit

/-- Let a request through, with the limit as it is then, or refuse it. -/
def decide (limit : RateLimit) (now : Nat) (request : Http.Request) :
    Except Refusal RateLimit :=
  match request.client? with
  | none => .error .unknownClient
  | some client =>
    if limit.admits now client then .ok (limit.spend now client) else .error .tooMany

end RateLimit

end CompilePlayground
