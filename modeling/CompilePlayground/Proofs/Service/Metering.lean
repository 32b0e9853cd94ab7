import CompilePlayground.Proofs.Service.Limiting

namespace CompilePlayground

open Network Posix

/-!
# How many requests of a client get through

As long as no time passes between requests, the limit lets through as many requests of a client
as its rate says, the first ones, whatever comes from other clients, on other paths and with other
methods. What is left of a client's allowance depends on that client's requests alone, and all
that comes after the last of it is refused and has no further effect.
-/

namespace Service

/-- How many of some requests count against the allowance of a client. -/
def claimed (client : Address) (requests : List Http.Request) : Nat :=
  requests.countP (·.claims client)

/-- The request under a ticket is one of the first of its client, as many as the rate says. -/
def Admitted (rate : Nat) (requests : List Http.Request) (ticket : Nat) : Prop :=
  ∃ request client, requests[ticket]? = some request ∧ request.claims client = true ∧
    claimed client (requests.take (ticket + 1)) ≤ rate

/-- Why a request is refused that is not let through. -/
def refusalOf (request : Http.Request) : Refusal :=
  if request.client?.isNone then .unknownClient else .tooMany

section Requests

variable {rate ticket : Nat} {requests : List Http.Request} {request : Http.Request}
  {client : Address}

theorem claimed_append (first second : List Http.Request) :
    claimed client (first ++ second) = claimed client first + claimed client second :=
  List.countP_append

theorem claimed_singleton :
    claimed client [request] = if request.claims client then 1 else 0 := by
  simp [claimed, List.countP_cons]

theorem lt_of_known (known : requests[ticket]? = some request) : ticket < requests.length :=
  (List.getElem?_eq_some_iff.1 known).1

/-- A request that comes in takes the place behind all others. -/
theorem known_snoc {other : Http.Request} :
    (requests ++ [request])[ticket]? = some other ↔
      requests[ticket]? = some other ∨ ticket = requests.length ∧ other = request := by
  rw [List.getElem?_append]
  split
  next within =>
    constructor
    · exact .inl
    · rintro (known | ⟨rfl, _⟩)
      · exact known
      · omega
  next beyond =>
    have none : requests[ticket]? = none := by
      rw [List.getElem?_eq_none_iff]
      omega
    rw [none, List.getElem?_singleton]
    constructor
    · intro known
      split at known
      · cases known
        exact .inr ⟨by omega, rfl⟩
      · cases known
    · rintro (known | ⟨rfl, rfl⟩)
      · cases known
      · simp

/-- Later requests do not matter for an earlier one. -/
theorem admitted_append
    (more : List Http.Request)
    (earlier : ticket < requests.length) :
    Admitted rate (requests ++ more) ticket ↔ Admitted rate requests ticket := by
  unfold Admitted
  rw [List.getElem?_append_left earlier,
    List.take_append_of_le_length (Nat.succ_le_of_lt earlier)]

/-- The request that comes in is let through if not too many of its client came before it. -/
theorem admitted_snoc_iff (claims : request.claims client = true) :
    Admitted rate (requests ++ [request]) requests.length ↔ claimed client requests < rate := by
  have whole : (requests ++ [request]).take (requests.length + 1) = requests ++ [request] :=
    List.take_of_length_le (by simp)
  have own (other : Address) (otherClaims : request.claims other = true) : other = client := by
    have otherClient := (Http.Request.claims_iff.1 otherClaims).2
    rw [(Http.Request.claims_iff.1 claims).2, Option.some.injEq] at otherClient
    exact otherClient.symm
  unfold Admitted
  rw [whole]
  constructor
  · rintro ⟨other, otherClient, known, otherClaims, few⟩
    rw [List.getElem?_concat_length, Option.some.injEq] at known
    subst known
    rw [own otherClient otherClaims, claimed_append, claimed_singleton, if_pos claims] at few
    exact few
  · intro few
    refine ⟨request, client, List.getElem?_concat_length, claims, ?_⟩
    rw [claimed_append, claimed_singleton, if_pos claims]
    exact few

theorem Admitted.snoc_claims
    (admitted : Admitted rate (requests ++ [request]) requests.length) :
    ∃ client, request.claims client = true ∧ claimed client requests < rate := by
  obtain ⟨other, client, known, claims, _⟩ := id admitted
  rw [List.getElem?_concat_length, Option.some.injEq] at known
  subst known
  exact ⟨client, claims, (admitted_snoc_iff claims).1 admitted⟩

end Requests

/-- Nothing waits under a ticket that has not been given out. -/
theorem send_ticketed
    {service : Service}
    {deeds : Deeds}
    (laws : Books.Kept deeds service.books)
    (request : Http.Request)
    (response : Http.Response) :
    service.ticketed.send service.fresh request (.silent response) =
      service.refused (Route.complete request response) := by
  have earlier (exchange : Exchange) (waits : exchange ∈ service.exchanges) :
      exchange.ticket ≠ service.fresh := by
    have known := laws.registered.known exchange waits
    have before := lt_of_known known
    rw [← laws.registered.fresh] at before
    exact Nat.ne_of_lt before
  have waiting : service.exchanges.filter (·.ticket != service.fresh) = service.exchanges := by
    rw [List.filter_eq_self]
    intro exchange waits
    simpa using earlier exchange waits
  have delivered : service.deliveries.filter (·.1 != service.fresh) = service.deliveries := by
    rw [List.filter_eq_self]
    intro entry laid
    obtain ⟨exchange, waits, own⟩ := laws.delivered.awaited entry laid
    rw [← own]
    simpa using earlier exchange waits
  have silent : service.events ++ (Endpoint.Answer.silent response).events = service.events :=
    List.append_nil _
  simp only [send, dismiss, ticketed, refused, waiting, delivered, silent]
  rfl

/-- How far the limit has come, with the requests that have met it. -/
structure Gated
    (rate now : Nat)
    (service : Service)
    (requests : List Http.Request)
    (deeds : Deeds) :
    Prop where
  limit : ∃ limit, service.limit? = some limit ∧
    limit.quota = ⟨rate, Quota.second / rate⟩ ∧
    ∀ client, limit.allowance now client = rate - claimed client requests
  waiting : ∀ exchange ∈ service.exchanges, exchange.request.IsLimited →
    exchange.request.IsSource ∧ Admitted rate requests exchange.ticket
  jobs : ∀ submission ∈ deeds.enqueued, Admitted rate requests submission.ticket
  through : ∀ reply ∈ service.replies, Admitted rate requests reply.ticket →
    reply.response.status ≠ tooManyStatus
  refused : ∀ ticket request, requests[ticket]? = some request → request.IsLimited →
    ¬Admitted rate requests ticket → ∀ response, ⟨ticket, response⟩ ∈ service.replies ↔
      response = Route.complete request (refusalOf request).response

namespace Gated

variable {service next : Service} {rate now : Nat} {requests : List Http.Request}
variable {deeds more : Deeds}

/-- The law stays when no request comes in. -/
theorem quiet
    (law : Gated rate now service requests deeds)
    (laws : Books.Kept deeds service.books)
    (same : deeds.received = requests)
    (entry : Books.Entry service.books more next.books)
    (none : more.received = [])
    (limit? : next.limit? = service.limit?) :
    Gated rate now next requests (deeds ++ more) where
  limit := by
    rw [limit?]
    exact law.limit
  waiting exchange waits limited := by
    obtain ⟨before, waited, sameTicket, sameRequest⟩ := entry.waited none waits
    rw [← sameRequest] at limited ⊢
    rw [← sameTicket]
    exact law.waiting before waited limited
  jobs submission put := by
    rw [Deeds.enqueued_append, List.mem_append] at put
    rcases put with before | now
    · exact law.jobs submission before
    · obtain ⟨exchange, waits, sameTicket, submits⟩ := entry.enqueued now
      have source := (laws.registered.sources exchange waits _ (by rw [submits]; rfl)).1
      rw [← sameTicket]
      exact (law.waiting exchange waits source.isLimited).2
  through reply sent admitted := by
    rcases laws.replied_of_entry entry none sent with before | ⟨exchange, waits, own, told⟩
    · exact law.through reply before admitted
    · obtain ⟨request, client, known, claims, _⟩ := admitted
      have waiting := laws.registered.known exchange waits
      rw [same, own, known, Option.some.injEq] at waiting
      subst waiting
      have source := (law.waiting exchange waits (Http.Request.claims_iff.1 claims).1).1
      rw [(told source).status source]
      decide
  refused ticket request known limited barred response := by
    rw [← law.refused ticket request known limited barred response]
    constructor
    · intro sent
      rcases laws.replied_of_entry entry none sent with before | ⟨exchange, waits, own, _⟩
      · exact before
      · have waiting := laws.registered.known exchange waits
        rw [same, own, known, Option.some.injEq] at waiting
        subst waiting
        have admitted := (law.waiting exchange waits limited).2
        rw [own] at admitted
        exact absurd admitted barred
    · intro sent
      exact entry.keepsReplies sent

/-- The law holds once a request has come in, if the request is put on the list as one that is
let through, or is answered at once and, where it is not let through, refused. -/
theorem arrive
    (law : Gated rate now service requests deeds)
    (laws : Books.Kept deeds service.books)
    (same : deeds.received = requests)
    {request : Http.Request}
    (answer? : Option Http.Response)
    (limit : ∃ limit, next.limit? = some limit ∧
      limit.quota = ⟨rate, Quota.second / rate⟩ ∧
      ∀ client, limit.allowance now client = rate - claimed client (requests ++ [request]))
    (waits : ∀ exchange ∈ next.exchanges, exchange ∈ service.exchanges ∨
      exchange.ticket = requests.length ∧ exchange.request = request ∧
        (request.IsLimited →
          request.IsSource ∧ Admitted rate (requests ++ [request]) requests.length))
    (sent : ∀ reply, reply ∈ next.replies ↔
      reply ∈ service.replies ∨ ∃ response ∈ answer?, reply = ⟨requests.length, response⟩)
    (through : ∀ response ∈ answer?, Admitted rate (requests ++ [request]) requests.length →
      response.status ≠ tooManyStatus)
    (refused : request.IsLimited → ¬Admitted rate (requests ++ [request]) requests.length →
      answer? = some (Route.complete request (refusalOf request).response)) :
    Gated rate now next (requests ++ [request]) (deeds ++ [.receive request]) where
  limit := limit
  waiting exchange waiting limited := by
    rcases waits exchange waiting with before | ⟨own, asked, let'⟩
    · have earlier := lt_of_known (same ▸ laws.registered.known exchange before)
      rw [admitted_append [request] earlier]
      exact law.waiting exchange before limited
    · rw [own, asked]
      exact let' (asked ▸ limited)
  jobs submission put := by
    have before : submission ∈ deeds.enqueued := by
      simpa using put
    obtain ⟨_, known, _⟩ := laws.queued.known submission before
    rw [admitted_append [request] (lt_of_known (same ▸ known))]
    exact law.jobs submission before
  through reply answered admitted := by
    rcases (sent reply).1 answered with before | ⟨response, answers, rfl⟩
    · obtain ⟨_, known, _⟩ := laws.replied reply before
      rw [admitted_append [request] (lt_of_known (same ▸ known))] at admitted
      exact law.through reply before admitted
    · exact through response answers admitted
  refused ticket asked known limited barred response := by
    rw [sent]
    rcases known_snoc.1 known with earlier | ⟨rfl, rfl⟩
    · have before := lt_of_known earlier
      rw [admitted_append [request] before] at barred
      rw [law.refused ticket asked earlier limited barred response]
      constructor
      · rintro (own | ⟨_, _, other⟩)
        · exact own
        · rw [(Reply.mk.inj other).1] at before
          exact absurd before (Nat.lt_irrefl _)
      · exact .inl
    · rw [refused limited barred]
      constructor
      · rintro (before | ⟨_, own, shape⟩)
        · obtain ⟨_, earlier, _⟩ := laws.replied _ before
          exact absurd (lt_of_known (same ▸ earlier)) (Nat.lt_irrefl _)
        · cases own
          exact (Reply.mk.inj shape).2
      · rintro rfl
        exact .inr ⟨_, rfl, rfl⟩

/-- The next ticket is the number of the requests that have come in. -/
theorem fresh_eq
    (laws : Books.Kept deeds service.books)
    (same : deeds.received = requests) :
    service.fresh = requests.length := by
  rw [← same]
  exact laws.registered.fresh

/-- A request that does not come to the limit leaves all allowances as they are. -/
theorem arrive_free
    (law : Gated rate now service requests deeds)
    (laws : Books.Kept deeds service.books)
    (same : deeds.received = requests)
    {request : Http.Request}
    (free : ¬request.IsLimited)
    (made : service.step? (.receive request) = some next) :
    Gated rate now next (requests ++ [request]) (deeds ++ [.receive request]) := by
  have fresh := fresh_eq laws same
  have barred : ¬Admitted rate (requests ++ [request]) requests.length := by
    intro admitted
    obtain ⟨_, claims, _⟩ := admitted.snoc_claims
    exact free (Http.Request.claims_iff.1 claims).1
  have limit : ∃ limit, next.limit? = some limit ∧
      limit.quota = ⟨rate, Quota.second / rate⟩ ∧
      ∀ client, limit.allowance now client = rate - claimed client (requests ++ [request]) := by
    obtain ⟨limit, found, quota, allowances⟩ := law.limit
    refine ⟨limit, ?_, quota, ?_⟩
    · rw [step?, Option.ite_none_right_eq_some, Option.some.injEq] at made
      rw [← made.2, limit?_receive_of_not_isLimited free, found]
    · intro client
      have unclaimed : request.claims client = false := by
        simp [Http.Request.claims, free]
      rw [claimed_append, claimed_singleton, unclaimed]
      exact allowances client
  have entry : Books.Entry service.books [.receive request] next.books :=
    entry_of_step? made
  generalize shape : next.books = books at entry
  cases entry with
  | respond _ response =>
      refine law.arrive laws same (some response) limit ?_ ?_
        (fun _ _ admitted => absurd admitted barred) (fun limited => absurd limited free)
      · intro exchange waits
        have listed : exchange ∈ next.books.exchanges :=
          waits
        rw [shape] at listed
        exact .inl (List.mem_of_mem_filter listed)
      · intro reply
        have listed : next.replies = service.replies ++ [⟨service.fresh, response⟩] :=
          congrArg Books.replies shape
        simp [listed, fresh]
  | enlist _ errand =>
      refine law.arrive laws same none limit ?_ ?_
        (fun _ _ admitted => absurd admitted barred) (fun limited => absurd limited free)
      · intro exchange waits
        have listed : next.exchanges =
            service.exchanges ++ [⟨service.fresh, request, errand⟩] :=
          congrArg Books.exchanges shape
        rw [listed, List.mem_append, List.mem_singleton] at waits
        rcases waits with before | rfl
        · exact .inl before
        · exact .inr ⟨fresh, rfl, fun limited => absurd limited free⟩
      · intro reply
        have listed : next.replies = service.replies :=
          congrArg Books.replies shape
        simp [listed]

/-- What the limit keeps for a client is as much as the requests of the client leave. -/
theorem admits_iff
    (law : Gated rate now service requests deeds)
    (period : 0 < Quota.second / rate)
    {limit : RateLimit}
    (found : service.limit? = some limit)
    (client : Address) :
    limit.admits now client = true ↔ claimed client requests < rate := by
  obtain ⟨_, alsoFound, quota, allowances⟩ := law.limit
  rw [found, Option.some.injEq] at alsoFound
  subst alsoFound
  have positive : 0 < limit.quota.period := by
    rw [quota]
    exact period
  rw [RateLimit.admits_iff positive, allowances]
  omega

/-- A request that is refused changes nothing but that it is answered. -/
theorem refuse
    (law : Gated rate now service requests deeds)
    (laws : Books.Kept deeds service.books)
    (same : deeds.received = requests)
    {request : Http.Request}
    (unchanged : ∀ client,
      rate - claimed client (requests ++ [request]) = rate - claimed client requests)
    (barred : ¬Admitted rate (requests ++ [request]) requests.length) :
    Gated rate now
      (service.ticketed.send service.fresh request (.silent (refusalOf request).response))
      (requests ++ [request]) (deeds ++ [.receive request]) := by
  have fresh := fresh_eq laws same
  obtain ⟨limit, found, quota, allowances⟩ := law.limit
  rw [send_ticketed laws]
  refine law.arrive laws same (some (Route.complete request (refusalOf request).response))
    ⟨limit, found, quota, ?_⟩ (fun _ waits => .inl waits) ?_
    (fun _ _ admitted => absurd admitted barred) (fun _ _ => rfl)
  · intro client
    rw [allowances, unchanged]
  · intro reply
    simp [Service.refused, fresh]

/-- A request whose client is unknown takes nothing from any allowance. -/
theorem refuse_unknown
    (law : Gated rate now service requests deeds)
    (laws : Books.Kept deeds service.books)
    (same : deeds.received = requests)
    {request : Http.Request}
    (unkeyed : request.client? = none) :
    Gated rate now
      (service.ticketed.send service.fresh request (.silent (refusalOf request).response))
      (requests ++ [request]) (deeds ++ [.receive request]) := by
  have unclaimed (client : Address) : request.claims client = false := by
    simp [Http.Request.claims, unkeyed]
  refine law.refuse laws same ?_ ?_
  · intro client
    rw [claimed_append, claimed_singleton, unclaimed]
    rfl
  · intro admitted
    obtain ⟨client, claims, _⟩ := admitted.snoc_claims
    rw [unclaimed] at claims
    cases claims

/-- A request of a client that has spent its allowance takes nothing from any other. -/
theorem refuse_tooMany
    (law : Gated rate now service requests deeds)
    (laws : Books.Kept deeds service.books)
    (same : deeds.received = requests)
    {request : Http.Request}
    {client : Address}
    (claims : request.claims client = true)
    (spent : rate ≤ claimed client requests) :
    Gated rate now
      (service.ticketed.send service.fresh request (.silent (refusalOf request).response))
      (requests ++ [request]) (deeds ++ [.receive request]) := by
  refine law.refuse laws same ?_ ?_
  · intro other
    rw [claimed_append, claimed_singleton]
    split
    next otherClaims =>
      have keyed := (Http.Request.claims_iff.1 claims).2
      have otherKeyed := (Http.Request.claims_iff.1 otherClaims).2
      rw [keyed, Option.some.injEq] at otherKeyed
      subst otherKeyed
      omega
    next =>
      rfl
  · rw [admitted_snoc_iff claims]
    omega

/-- A request that is let through takes one from the allowance of its client, and nothing from that
of another. -/
theorem allowance_spend
    {limit : RateLimit}
    (allowances : ∀ client, limit.allowance now client = rate - claimed client requests)
    {request : Http.Request}
    {client : Address}
    (claims : request.claims client = true)
    (other : Address) :
    (limit.spend now client).allowance now other =
      rate - claimed other (requests ++ [request]) := by
  rw [claimed_append, claimed_singleton]
  by_cases own : other = client
  · subst own
    rw [RateLimit.allowance_spend_self, allowances, if_pos claims]
    omega
  · have unclaimed : request.claims other = false := by
      simp [Http.Request.claims, (Http.Request.claims_iff.1 claims).2, Ne.symm own]
    rw [RateLimit.allowance_spend_of_ne own, allowances, unclaimed]
    rfl

/-- A request that is let through waits, or is told that its method is not taken. -/
theorem letThrough
    (law : Gated rate now service requests deeds)
    (laws : Books.Kept deeds service.books)
    (same : deeds.received = requests)
    {request : Http.Request}
    {limit : RateLimit}
    (limited : request.IsLimited)
    (quota : limit.quota = ⟨rate, Quota.second / rate⟩)
    (allowances : ∀ client,
      limit.allowance now client = rate - claimed client (requests ++ [request]))
    (admitted : Admitted rate (requests ++ [request]) requests.length) :
    Gated rate now
      ((service.ticketed.receiveSource service.fresh request).withLimit (some limit))
      (requests ++ [request]) (deeds ++ [.receive request]) := by
  have fresh := fresh_eq laws same
  have stands : ∃ limit', some limit = some limit' ∧
      limit'.quota = ⟨rate, Quota.second / rate⟩ ∧
      ∀ client, limit'.allowance now client = rate - claimed client (requests ++ [request]) :=
    ⟨limit, rfl, quota, allowances⟩
  unfold receiveSource
  split
  next taken =>
    have source : request.IsSource :=
      ⟨limited.1, (Route.takes_compile_iff _).1 taken⟩
    refine law.arrive laws same none stands ?_ ?_ (fun _ none => by cases none)
      (fun _ barred => absurd admitted barred)
    · intro exchange waits
      have listed : exchange ∈ service.exchanges ++
          [⟨service.fresh, request, .submit (jobOf service.names service.fresh request)⟩] :=
        waits
      rw [List.mem_append, List.mem_singleton] at listed
      rcases listed with before | rfl
      · exact .inl before
      · exact .inr ⟨fresh, rfl, fun _ => ⟨source, admitted⟩⟩
    · intro reply
      constructor
      · exact .inl
      · rintro (before | ⟨_, none, _⟩)
        · exact before
        · cases none
  next refused' =>
    have bare : Endpoint.Answer.bare 405 = .silent (.bare 405) :=
      rfl
    rw [bare, send_ticketed laws]
    refine law.arrive laws same (some (Route.complete request (.bare 405))) stands
      (fun _ waits => .inl waits) ?_ ?_ (fun _ barred => absurd admitted barred)
    · intro reply
      simp [Service.refused, withLimit, fresh]
    · rintro _ ⟨⟩ _
      rw [Route.status_complete_of_not_asking limited.2]
      decide

/-- A request that comes to the limit is let through while its client has some allowance left,
and takes one from it. -/
theorem arrive_limited
    (law : Gated rate now service requests deeds)
    (laws : Books.Kept deeds service.books)
    (same : deeds.received = requests)
    (period : 0 < Quota.second / rate)
    (clock : service.machine.clock = now)
    {request : Http.Request}
    (limited : request.IsLimited) :
    Gated rate now (service.receive request) (requests ++ [request])
      (deeds ++ [.receive request]) := by
  obtain ⟨limit, found, quota, allowances⟩ := law.limit
  subst clock
  have counts := law.admits_iff period found
  have met := meets_receive limited found
  generalize service.receive request = received at met ⊢
  cases met with
  | unknown unkeyed =>
      have reason : refusalOf request = .unknownClient := by
        simp [refusalOf, unkeyed]
      have refused := law.refuse_unknown laws same unkeyed
      rwa [reason] at refused
  | tooMany client keyed refuses =>
      have reason : refusalOf request = .tooMany := by
        simp [refusalOf, keyed]
      have spent : rate ≤ claimed client requests := by
        rw [← Bool.not_eq_true, counts] at refuses
        exact Nat.le_of_not_lt refuses
      have refused := law.refuse_tooMany laws same
        (Http.Request.claims_iff.2 ⟨limited, keyed⟩) spent
      rwa [reason] at refused
  | admitted client keyed admits =>
      have claims : request.claims client = true :=
        Http.Request.claims_iff.2 ⟨limited, keyed⟩
      exact law.letThrough laws same limited quota (allowance_spend allowances claims)
        ((admitted_snoc_iff claims).2 ((counts client).1 admits))

end Gated

/-- How many more requests a client may send at once, if there is a limit. -/
def allowance? (service : Service) (now : Nat) (client : Address) : Option Nat :=
  service.limit?.map fun limit => limit.allowance now client

/-- What the limit makes of a request that comes in after others. -/
structure Meters
    (rate now : Nat)
    (service : Service)
    (requests : List Http.Request)
    (request : Http.Request)
    (next : Service) :
    Prop where
  /-- A request of a client is let through exactly as long as no more of them have come in than
  the rate says. -/
  counted : ∀ client, request.claims client = true →
    (service.LetsThrough request next ↔ claimed client requests + 1 ≤ rate)
  /-- One of too many is told so, and nothing else happens. -/
  tooMany : ∀ client, request.claims client = true → rate ≤ claimed client requests →
    (Route.complete request Refusal.tooMany.response).status = 429 ∧
      next = service.refused (Route.complete request Refusal.tooMany.response)
  /-- A request of nobody is told so, and nothing else happens. -/
  unknown : request.IsLimited → request.client? = none →
    next = service.refused (Route.complete request Refusal.unknownClient.response)
  /-- Any other request is taken in as if there were no limit. -/
  free : ¬request.IsLimited →
    service.LetsThrough request next ∧ next.limit? = service.limit?
  /-- The allowance of a client is touched by its own requests only. -/
  others : ∀ client, request.claims client = false →
    next.allowance? now client = service.allowance? now client

/-- What the limit has let through and what it has kept out. -/
structure Metered
    (rate now : Nat)
    (service : Service)
    (requests : List Http.Request)
    (deeds : Deeds) :
    Prop where
  /-- A client's allowance is what its own requests have left of it. -/
  allowances : ∀ client, service.allowance? now client = some (rate - claimed client requests)
  /-- The next request is measured by those of its own client. -/
  next : ∀ request next, service.machine.clock = now →
    service.step? (.receive request) = some next → Meters rate now service requests request next
  /-- Only what was let through is ever put into the queue. -/
  enqueued : ∀ submission ∈ deeds.enqueued, Admitted rate requests submission.ticket
  /-- Only what was let through is ever compiled. -/
  compiled : ∀ index submission machine, Deed.compile index submission machine ∈ deeds →
    Admitted rate requests submission.ticket
  /-- What was let through is never told that there were too many. -/
  through : ∀ reply ∈ service.replies, Admitted rate requests reply.ticket →
    reply.response.status ≠ 429
  /-- What was not let through has been told so, and is told nothing else. -/
  refused : ∀ ticket request, requests[ticket]? = some request → request.IsLimited →
    ¬Admitted rate requests ticket → ∀ response, ⟨ticket, response⟩ ∈ service.replies ↔
      response = Route.complete request (refusalOf request).response

namespace Gated

variable {service next : Service} {rate now : Nat} {requests : List Http.Request}
  {deeds : Deeds} {request : Http.Request}

theorem receive
    (law : Gated rate now service requests deeds)
    (laws : Books.Kept deeds service.books)
    (same : deeds.received = requests)
    (period : 0 < Quota.second / rate)
    (clock : service.machine.clock = now)
    (made : service.step? (.receive request) = some next) :
    Gated rate now next (requests ++ [request]) (deeds ++ [.receive request]) := by
  by_cases limited : request.IsLimited
  · rw [step?, Option.ite_none_right_eq_some, Option.some.injEq] at made
    rw [← made.2]
    exact law.arrive_limited laws same period clock limited
  · exact law.arrive_free laws same limited made

theorem meters
    (law : Gated rate now service requests deeds)
    (laws : Books.Kept deeds service.books)
    (same : deeds.received = requests)
    (period : 0 < Quota.second / rate)
    (clock : service.machine.clock = now)
    (made : service.step? (.receive request) = some next) :
    Meters rate now service requests request next := by
  obtain ⟨limit, found, quota, allowances⟩ := law.limit
  obtain ⟨_, nextFound, _, nextAllowances⟩ :=
    (law.receive laws same period clock made).limit
  have counts := law.admits_iff period found
  rw [step?, Option.ite_none_right_eq_some, Option.some.injEq] at made
  obtain ⟨_, rfl⟩ := made
  subst clock
  constructor
  case counted =>
    intro client claims
    obtain ⟨limited, keyed⟩ := Http.Request.claims_iff.1 claims
    have met := meets_receive limited found
    generalize service.receive request = received at met ⊢
    cases met with
    | unknown unkeyed =>
        rw [unkeyed] at keyed
        cases keyed
    | admitted _ alsoKeyed admits =>
        rw [keyed, Option.some.injEq] at alsoKeyed
        subst alsoKeyed
        exact iff_of_true (letsThrough_of_admitted limited _) ((counts client).1 admits)
    | tooMany _ alsoKeyed refuses =>
        rw [keyed, Option.some.injEq] at alsoKeyed
        subst alsoKeyed
        rw [← Bool.not_eq_true, counts] at refuses
        exact iff_of_false (not_letsThrough_of_refused limited) refuses
  case tooMany =>
    intro client claims spent
    obtain ⟨limited, keyed⟩ := Http.Request.claims_iff.1 claims
    refine ⟨Route.status_complete_of_not_asking limited.2 _, ?_⟩
    have met := meets_receive limited found
    generalize service.receive request = received at met ⊢
    cases met with
    | unknown unkeyed =>
        rw [unkeyed] at keyed
        cases keyed
    | tooMany =>
        exact send_ticketed laws _ _
    | admitted _ alsoKeyed admits =>
        rw [keyed, Option.some.injEq] at alsoKeyed
        subst alsoKeyed
        exact absurd ((counts client).1 admits) (Nat.not_lt_of_le spent)
  case unknown =>
    intro limited unkeyed
    have met := meets_receive limited found
    generalize service.receive request = received at met ⊢
    cases met with
    | unknown =>
        exact send_ticketed laws _ _
    | admitted _ keyed | tooMany _ keyed =>
        rw [keyed] at unkeyed
        cases unkeyed
  case free =>
    intro free
    refine ⟨?_, limit?_receive_of_not_isLimited free service⟩
    unfold LetsThrough
    rw [receive_withLimit_of_not_isLimited free]
    rfl
  case others =>
    intro client unclaimed
    rw [allowance?, allowance?, found, nextFound, Option.map_some, Option.map_some,
      allowances, nextAllowances, claimed_append, claimed_singleton, unclaimed]
    rfl

theorem metered
    (law : Gated rate now service requests deeds)
    (laws : Books.Kept deeds service.books)
    (same : deeds.received = requests)
    (period : 0 < Quota.second / rate) :
    Metered rate now service requests deeds where
  allowances client := by
    obtain ⟨limit, found, _, allowances⟩ := law.limit
    rw [allowance?, found, Option.map_some, allowances]
  next _ _ clock made := law.meters laws same period clock made
  enqueued := law.jobs
  compiled index submission machine compiles :=
    law.jobs submission
      (laws.queued.enqueued_of_taken (laws.worked.begun index submission machine compiles))
  through := law.through
  refused := law.refused

end Gated

section Launched

variable
  {host : Host}
  {settings : CompilerSettings}
  {pageName : Bytes}
  {rate workers now : Nat}
  {names : Nat → String}
  {machine : Machine}
  {course : List Occurrence}
  {service : Service}

/-- A service that has just been launched has let nothing through. -/
theorem gated_launch (positive : 0 < rate) (bounded : rate ≤ Quota.second) :
    Gated rate now (launch host settings pageName (some rate) workers machine names) [] [] := by
  have limit : (launch host settings pageName (some rate) workers machine names).limit? =
      some (RateLimit.ofQuota ⟨rate, Quota.second / rate⟩) := by
    have asked : limitOf? (some rate) = (Quota.ofRate? rate).map RateLimit.ofQuota :=
      rfl
    rw [Quota.ofRate?_eq positive bounded] at asked
    exact asked
  constructor
  case limit =>
    refine ⟨_, limit, rfl, ?_⟩
    intro client
    exact RateLimit.allowance_ofQuota (Nat.div_pos bounded positive) now client
  case waiting =>
    intro exchange waits
    cases waits
  case jobs =>
    intro submission put
    cases put
  case through =>
    intro reply sent
    cases sent
  case refused =>
    intro ticket request known
    cases known

/-- As long as all requests come in at one moment, the limit lets through as many of each client
as its rate says, whatever else happens to the service and around it. -/
theorem metered_of_course
    (positive : 0 < rate)
    (bounded : rate ≤ 1000000000)
    (run : (launch host settings pageName (some rate) workers machine names).undergo? course =
      some service)
    (atOnce : ∀ moment ∈
      (launch host settings pageName (some rate) workers machine names).moments course,
        moment = now) :
    Metered rate now service (arrivals course)
      ((launch host settings pageName (some rate) workers machine names).account course) := by
  have period : 0 < Quota.second / rate :=
    Nat.div_pos bounded positive
  have law : Gated rate now service (arrivals course)
      ((launch host settings pageName (some rate) workers machine names).account course) := by
    refine undergo?_induction
      (motive := fun course service =>
        (∀ moment ∈
          (launch host settings pageName (some rate) workers machine names).moments course,
          moment = now) →
        Gated rate now service (arrivals course)
          ((launch host settings pageName (some rate) workers machine names).account course))
      (fun _ => gated_launch positive bounded) ?_ run atOnce
    intro course last occurrence next before inductionHypothesis made atOnce
    have laws := kept_of_course before
    have same := received_account before
    rw [moments, gather_snoc _ before made] at atOnce
    have law := inductionHypothesis fun moment earlier =>
      atOnce moment (List.mem_append_left _ earlier)
    rw [account_snoc before made, arrivals_append, arrivals_singleton]
    cases comes : occurrence.request? with
    | none =>
        rw [Option.toList_none, List.append_nil]
        refine law.quiet laws same (entry_of_occur? made) ?_ (limit?_occur? made comes)
        rw [received_deedsOf, comes]
        rfl
    | some request =>
        have receives : occurrence = .move (.receive request) := by
          unfold Occurrence.request? at comes
          split at comes <;> cases comes
          rfl
        subst receives
        refine law.receive laws same period ?_ made
        exact atOnce _ (List.mem_append_right _ (List.mem_singleton_self _))
  exact law.metered (kept_of_course run) (received_account run) period

end Launched

namespace Sample

/-- A request of the client that a proxy names, which passes it on from another address. -/
def forwarded (method path client : String) : Http.Request :=
  ⟨method, path, [.ofText "x-forwarded-for" client], [97], some ⟨.four [10, 0, 0, 1], 80⟩⟩

/-- One client asks for more compilations than two while others send requests as well. Later one
of the jobs is taken, and time passes. -/
def rush : List Occurrence :=
  ([forwarded "POST" "/compile" "10.0.0.2", forwarded "GET" "/compile" "10.0.0.2",
      forwarded "POST" "/compile" "10.0.0.2", forwarded "OPTIONS" "/compile" "10.0.0.2",
      forwarded "POST" "/compile" "10.0.0.3", forwarded "GET" "/favicon.ico" "10.0.0.2",
      request [97]].map fun request => .move (.receive request))
    ++ [.move (.attend 0), .move (.work 0), .move (.work 0), .change machine,
      .move (.wait 1000)]

/-- A service that lets two requests of a client through each second. -/
def limited : Service :=
  launch host settings [] (some 2) 1 machine

end Sample

/-- A run in which a third request of one client is refused, and one that nobody has sent. -/
theorem metered_of_course_of_rush :
    ∃ reached, Sample.limited.undergo? Sample.rush = some reached ∧
      reached.replies.map (fun reply => (reply.ticket, reply.response.status)) =
        [(1, 405), (2, 429), (3, 200), (5, 200), (6, 500)] ∧
      Metered 2 0 reached (arrivals Sample.rush) (Sample.limited.account Sample.rush) := by
  have made : (Sample.limited.undergo? Sample.rush).map (fun reached =>
      reached.replies.map fun reply => (reply.ticket, reply.response.status)) =
        some [(1, 405), (2, 429), (3, 200), (5, 200), (6, 500)] := by
    decide +kernel
  have atOnce : ∀ moment ∈ Sample.limited.moments Sample.rush, moment = 0 := by
    decide +kernel
  obtain ⟨reached, run, replies⟩ := Option.map_eq_some_iff.1 made
  exact ⟨reached, run, replies, metered_of_course (by decide) (by decide) run atOnce⟩

end Service

end CompilePlayground
