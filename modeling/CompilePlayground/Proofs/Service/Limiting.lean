import CompilePlayground.Proofs.Service.Allowance
import CompilePlayground.Proofs.Service.Courses
import CompilePlayground.Proofs.Service.Sending

namespace CompilePlayground

open Network

/-!
# Requests that come to the limit

Only requests for a compilation come to the limit, whatever their method, but for those that ask
what may be sent. Each of them is taken in as a service without a limit would do it, or it is
refused, which changes nothing about the service but that it has been refused.
-/

/-- A request that comes to the limit. -/
def Http.Request.IsLimited (request : Http.Request) : Prop :=
  request.path = Route.compile.path ∧ request.method ≠ Http.Sharing.askingMethod

instance : DecidablePred Http.Request.IsLimited :=
  fun _ => inferInstanceAs (Decidable (_ ∧ _))

/-- Whether a request counts against the allowance of a client. -/
def Http.Request.claims (request : Http.Request) (client : Address) : Bool :=
  request.IsLimited && request.client? == some client

theorem Http.Request.claims_iff
    {request : Http.Request}
    {client : Address} :
    request.claims client = true ↔ request.IsLimited ∧ request.client? = some client := by
  simp [claims]

theorem Http.Request.IsSource.isLimited
    {request : Http.Request}
    (source : request.IsSource) :
    request.IsLimited := by
  refine ⟨source.1, ?_⟩
  rw [source.2]
  decide

namespace Service

/-- A service with another limit, or with none. -/
def withLimit (service : Service) (limit? : Option RateLimit) : Service :=
  { service with limit? }

/-- A service that has given out one more ticket. -/
def ticketed (service : Service) : Service :=
  { service with fresh := service.fresh + 1 }

/-- A service that has refused a request and done nothing else. -/
def refused (service : Service) (response : Http.Response) : Service :=
  { service with
    fresh := service.fresh + 1,
    replies := service.replies ++ [⟨service.fresh, response⟩] }

/-- The limit lets a request through when the service takes it in as if there were none. -/
def LetsThrough (service : Service) (request : Http.Request) (next : Service) : Prop :=
  next = ((service.withLimit none).receive request).withLimit next.limit?

variable {service next : Service} {request : Http.Request}

theorem receiveSource_withLimit
    (service : Service)
    (limit? : Option RateLimit)
    (ticket : Nat)
    (request : Http.Request) :
    (service.withLimit limit?).receiveSource ticket request =
      (service.receiveSource ticket request).withLimit limit? := by
  unfold receiveSource
  split <;> rfl

@[simp] theorem limit?_receiveSource
    (service : Service)
    (ticket : Nat)
    (request : Http.Request) :
    (service.receiveSource ticket request).limit? = service.limit? := by
  unfold receiveSource
  split <;> rfl

/-- A request that comes to the limit meets nothing before it. -/
theorem receive_of_isLimited
    (limited : request.IsLimited)
    (service : Service) :
    service.receive request = service.ticketed.receiveLimited service.fresh request := by
  have asks : Http.Sharing.isAsking request = false := by
    simpa [Http.Sharing.isAsking] using limited.2
  have leads : Route.ofPath? request.path = some .compile := by
    rw [limited.1]
    decide
  unfold receive receiveAs
  simp only [asks, leads, Bool.false_eq_true, if_false]
  rfl

/-- A request that does not come to the limit is taken in as if there were none. -/
theorem receive_withLimit_of_not_isLimited
    (free : ¬request.IsLimited)
    (service : Service)
    (limit? : Option RateLimit) :
    (service.withLimit limit?).receive request = (service.receive request).withLimit limit? := by
  unfold receive receiveAs
  split
  next =>
    rfl
  next asks =>
    split
    next =>
      rfl
    next leads =>
      refine absurd ⟨Route.path_of_ofPath? leads, ?_⟩ free
      simpa [Http.Sharing.isAsking] using asks
    next route other leads =>
      split
      · cases route with
        | compile =>
            exact (other rfl).elim
        | page | icon | version | titles | extension =>
            rfl
      · rfl

/-- A request that does not come to the limit leaves it as it is. -/
theorem limit?_receive_of_not_isLimited
    (free : ¬request.IsLimited)
    (service : Service) :
    (service.receive request).limit? = service.limit? := by
  have same := congrArg limit? (receive_withLimit_of_not_isLimited free service service.limit?)
  exact same

/-- What becomes of a request that comes to the limit. -/
inductive Meets (service : Service) (limit : RateLimit) (request : Http.Request) :
    Service → Prop where
  | unknown
      (unkeyed : request.client? = none) :
      Meets service limit request
        (service.ticketed.send service.fresh request (.silent Refusal.unknownClient.response))
  | admitted
      (client : Address)
      (keyed : request.client? = some client)
      (admits : limit.admits service.machine.clock client = true) :
      Meets service limit request
        ((service.ticketed.receiveSource service.fresh request).withLimit
          (some (limit.spend service.machine.clock client)))
  | tooMany
      (client : Address)
      (keyed : request.client? = some client)
      (refuses : limit.admits service.machine.clock client = false) :
      Meets service limit request
        (service.ticketed.send service.fresh request (.silent Refusal.tooMany.response))

/-- A request that comes to the limit is let through, or its client is unknown or has no
allowance left. -/
theorem meets_receive
    {limit : RateLimit}
    (limited : request.IsLimited)
    (found : service.limit? = some limit) :
    Meets service limit request (service.receive request) := by
  have known : service.ticketed.limit? = some limit :=
    found
  rw [receive_of_isLimited limited]
  unfold receiveLimited
  simp only [known, RateLimit.decide]
  cases keyed : request.client? with
  | none =>
      exact .unknown keyed
  | some client =>
      cases admits : limit.admits service.machine.clock client with
      | true =>
          have met : Meets service limit request _ := .admitted client keyed admits
          rw [← receiveSource_withLimit] at met
          have now : service.ticketed.machine.clock = service.machine.clock :=
            rfl
          simp only [now, admits, if_true]
          exact met
      | false =>
          have now : service.ticketed.machine.clock = service.machine.clock :=
            rfl
          simp only [now, admits, Bool.false_eq_true, if_false]
          exact .tooMany client keyed admits

/-- A request that is let through is taken in as if there were no limit. -/
theorem letsThrough_of_admitted
    (limited : request.IsLimited)
    (limit? : Option RateLimit) :
    service.LetsThrough request
      ((service.ticketed.receiveSource service.fresh request).withLimit limit?) := by
  have open' : (service.withLimit none).ticketed.limit? = none :=
    rfl
  unfold LetsThrough
  rw [receive_of_isLimited limited]
  unfold receiveLimited
  simp only [open']
  exact congrArg (fun service => service.withLimit limit?)
    (receiveSource_withLimit service.ticketed none service.fresh request).symm

/-- The status that a client gets that has sent too many requests. -/
def tooManyStatus : Nat := Refusal.tooMany.response.status

/-- A request that is let through is not told that there were too many. -/
theorem not_letsThrough_of_refused
    {refusal : Refusal}
    (limited : request.IsLimited) :
    ¬service.LetsThrough request
      (service.ticketed.send service.fresh request (.silent refusal.response)) := by
  intro through
  have open' : (service.withLimit none).ticketed.limit? = none :=
    rfl
  unfold LetsThrough at through
  rw [receive_of_isLimited limited] at through
  unfold receiveLimited at through
  simp only [open'] at through
  have replies := congrArg Service.replies through
  unfold receiveSource at replies
  split at replies
  · -- A source waits, and nothing is sent for it.
    have lengths := congrArg List.length replies
    simp [withLimit, send, dismiss, log, enlist, ticketed] at lengths
  · -- Any other method is told that it is not allowed.
    simp only [withLimit, send, dismiss, ticketed, List.append_cancel_left_eq, List.cons.injEq,
      Reply.mk.injEq, and_true, true_and] at replies
    have statuses := congrArg Http.Response.status replies
    rw [Route.status_complete_of_not_asking limited.2,
      Route.status_complete_of_not_asking limited.2] at statuses
    cases refusal <;> cases statuses

theorem limit?_attend?
    {ticket : Nat}
    (made : service.attend? ticket = some next) :
    next.limit? = service.limit? := by
  unfold attend? at made
  split at made
  next =>
    cases made
  next exchange _ =>
    split at made
    · cases made
      unfold submit
      split <;> rfl
    · obtain ⟨delivery, _, rfl⟩ := Option.map_eq_some_iff.1 made
      cases delivery <;> rfl
    · unfold inquire? at made
      split at made
      · cases made
        rfl
      · cases made
      · split at made <;> cases made <;> rfl
    · unfold listen? at made
      split at made
      · cases made
        rfl
      · obtain ⟨status, _, rfl⟩ := Option.map_eq_some_iff.1 made
        unfold conclude
        split <;> rfl

/-- Nothing but a request that comes in changes the limit. -/
theorem limit?_occur?
    {occurrence : Occurrence}
    (made : service.occur? occurrence = some next)
    (quiet : occurrence.request? = none) :
    next.limit? = service.limit? := by
  cases occurrence with
  | change machine =>
      cases made
      rfl
  | move move =>
      cases move with
      | receive request =>
          cases quiet
      | attend ticket =>
          exact limit?_attend? made
      | leave ticket =>
          obtain ⟨exchange, _, rfl⟩ := Option.map_eq_some_iff.1 made
          unfold giveUp
          split <;> rfl
      | work index =>
          obtain ⟨_, _, _, _, _, rfl⟩ := work?_eq made
          rfl
      | run process =>
          obtain ⟨machine, _, rfl⟩ := Option.map_eq_some_iff.1 made
          rfl
      | wait moment =>
          cases made
          rfl
      | close =>
          simp only [occur?, step?, Option.ite_none_right_eq_some, Option.some.injEq] at made
          rw [← made.2]

end Service

end CompilePlayground
