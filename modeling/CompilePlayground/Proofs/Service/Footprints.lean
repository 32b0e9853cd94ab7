import CompilePlayground.Proofs.Service.Limiting
import CompilePlayground.Proofs.Service.Trials

namespace CompilePlayground

open Posix

/-!
# What a request can reach

All that a request does to the service it does when it comes in, and later when something is done
for it or its client goes away. `Receipt` lists what becomes of it when it comes in, and `Advance`
how it goes on from there. The rest of what happens is no request's doing.
-/

namespace Service

/-- The limit, if there is one, lets a request for a compilation through. -/
def Passes (service : Service) (request : Http.Request) : Prop :=
  request.IsSource ∧ ∀ limit, service.limit? = some limit →
    ∃ spent, limit.decide service.machine.clock request = .ok spent

/-- The ticket of the request that something is done for, or whose client goes away. -/
def Occurrence.ticket? : Occurrence → Option Nat
  | .move (.attend ticket) => some ticket
  | .move (.leave ticket) => some ticket
  | _ => none

/-- What becomes of a request when it comes in. -/
inductive Receipt (service : Service) (request : Http.Request) : Service → Prop where
  | answered
      (limit? : Option RateLimit)
      (answer : Endpoint.Answer)
      (spends : request.IsLimited ∨ limit? = service.limit?)
      (refused : ¬service.Passes request)
      (told : ¬request.IsInquiry) :
      Receipt service request
        ((service.ticketed.withLimit limit?).send service.fresh request answer)
  | submits
      (limit? : Option RateLimit)
      (passes : service.Passes request) :
      Receipt service request
        (((service.ticketed.withLimit limit?).enlist
            ⟨service.fresh, request, .submit (jobOf service.names service.fresh request)⟩).log
          [sendingEvent (jobOf service.names service.fresh request)])
  | inquires
      (inquires : request.IsInquiry) :
      Receipt service request (service.ticketed.enlist ⟨service.fresh, request, .inquire⟩)

/-- How a request that waits goes on, and the submissions that it adds to the queue. -/
inductive Advance (service : Service) (exchange : Exchange) :
    List Submission → Service → Prop where
  | enqueue
      (job : Job)
      (submits : exchange.errand = .submit job) :
      Advance service exchange [⟨exchange.ticket, job⟩]
        ({ service with queue := service.queue ++ [Submission.mk exchange.ticket job] }.reassign
          exchange.ticket (.collect job))
  | answer
      (answer : Endpoint.Answer) :
      Advance service exchange [] (service.send exchange.ticket exchange.request answer)
  | listen
      (version : VersionCell)
      (machine : Machine)
      (inquiry : Inquiry)
      (asks : exchange.errand.job? = none) :
      Advance service exchange []
        ({ service with version, machine }.reassign exchange.ticket (.listen inquiry))
  | tell
      (version : VersionCell)
      (machine : Machine)
      (answer : Endpoint.Answer)
      (asks : exchange.errand.job? = none) :
      Advance service exchange []
        ({ service with version, machine }.send exchange.ticket exchange.request answer)
  | leave :
      Advance service exchange [] (service.dismiss exchange.ticket)
  | abandon
      (version : VersionCell)
      (machine : Machine)
      (asks : exchange.errand.job? = none) :
      Advance service exchange [] ({ service with version, machine }.dismiss exchange.ticket)

variable {service next : Service} {request : Http.Request} {exchange : Exchange}
  {added : List Submission} {occurrence : Occurrence} {ticket : Nat}

/-! ## Coming in -/

theorem not_isInquiry_of_isLimited (limited : request.IsLimited) : ¬request.IsInquiry := by
  rintro ⟨path, _⟩
  rw [limited.1] at path
  revert path
  decide

/-- A request that the limit does not keep back waits if it is a source, and is told otherwise that
its method is not allowed. -/
theorem receipt_receiveSource
    (limit? : Option RateLimit)
    (limited : request.IsLimited)
    (through : ∀ limit, service.limit? = some limit →
      ∃ spent, limit.decide service.machine.clock request = .ok spent) :
    Receipt service request
      ((service.ticketed.withLimit limit?).receiveSource service.fresh request) := by
  unfold receiveSource
  split
  next takes =>
    exact .submits limit? ⟨⟨limited.1, (Route.takes_compile_iff _).1 takes⟩, through⟩
  next takes =>
    refine .answered limit? _ (.inl limited) ?_ (not_isInquiry_of_isLimited limited)
    rintro ⟨source, _⟩
    exact takes ((Route.takes_compile_iff _).2 source.2)

/-- A request that comes in is answered at once, or waits for its compilation, or for the version. -/
theorem receipt_receive (service : Service) (request : Http.Request) :
    Receipt service request (service.receive request) := by
  by_cases limited : request.IsLimited
  · rw [receive_of_isLimited limited]
    unfold receiveLimited
    split
    next found =>
      have free : service.limit? = none :=
        found
      exact receipt_receiveSource service.limit? limited fun limit same =>
        absurd (free.symm.trans same) (Option.some_ne_none limit).symm
    next limit found =>
      have held : service.limit? = some limit :=
        found
      split
      next spent decided =>
        refine receipt_receiveSource (some spent) limited fun other same => ⟨spent, ?_⟩
        cases held.symm.trans same
        exact decided
      next refusal decided =>
        refine .answered service.limit? _ (.inl limited) ?_ (not_isInquiry_of_isLimited limited)
        rintro ⟨_, through⟩
        obtain ⟨spent, passed⟩ := through limit held
        cases decided.symm.trans passed
  · by_cases inquires : request.IsInquiry
    · rw [receive_of_isInquiry inquires]
      exact .inquires inquires
    · have refused : ¬service.Passes request := fun passes => limited passes.1.isLimited
      have answered (answer : Endpoint.Answer) :
          Receipt service request (service.ticketed.send service.fresh request answer) :=
        .answered service.limit? answer (.inr rfl) refused inquires
      unfold receive receiveAs
      split
      next =>
        exact answered _
      next asks =>
        split
        next =>
          exact answered _
        next leads =>
          refine absurd ⟨Route.path_of_ofPath? leads, ?_⟩ limited
          simpa [Http.Sharing.isAsking] using asks
        next route other leads =>
          split
          next takes =>
            cases route with
            | compile =>
                exact (other rfl).elim
            | version =>
                refine absurd ⟨Route.path_of_ofPath? leads, ?_⟩ inquires
                simpa [Route.takes, Route.methods?] using takes
            | page | icon | titles | extension =>
                exact answered _
          next =>
            exact answered _

/-! ## Going on -/

theorem advance_attend?
    (made : service.attend? ticket = some next) :
    ∃ exchange ∈ service.exchanges, ∃ added,
      exchange.ticket = ticket ∧ Advance service exchange added next := by
  unfold attend? at made
  split at made
  · cases made
  next exchange found =>
    obtain ⟨waiting, own⟩ := mem_of_exchange? found
    refine ⟨exchange, waiting, ?_⟩
    cases errand : exchange.errand with
    | submit job =>
        simp only [errand] at made
        cases made
        unfold submit
        split
        · exact ⟨_, own, .enqueue job errand⟩
        · exact ⟨_, own, .answer _⟩
    | collect job =>
        simp only [errand] at made
        obtain ⟨delivery, _, rfl⟩ := Option.map_eq_some_iff.1 made
        cases delivery <;> exact ⟨_, own, .answer _⟩
    | inquire =>
        have asks : exchange.errand.job? = none := by
          rw [errand]
          rfl
        simp only [errand, inquire?] at made
        split at made
        · cases made
          exact ⟨_, own, .answer _⟩
        · cases made
        · split at made
          · cases made
            exact ⟨_, own, .listen _ _ _ asks⟩
          · cases made
            exact ⟨_, own, .answer _⟩
    | listen inquiry =>
        have asks : exchange.errand.job? = none := by
          rw [errand]
          rfl
        simp only [errand, listen?] at made
        split at made
        · cases made
          exact ⟨_, own, .listen service.version _ _ asks⟩
        · obtain ⟨status, _, rfl⟩ := Option.map_eq_some_iff.1 made
          unfold conclude
          split <;> exact ⟨_, own, .tell _ _ _ asks⟩

theorem advance_leave?
    (made : service.leave? ticket = some next) :
    ∃ exchange ∈ service.exchanges, ∃ added,
      exchange.ticket = ticket ∧ Advance service exchange added next := by
  obtain ⟨exchange, found, rfl⟩ := Option.map_eq_some_iff.1 made
  obtain ⟨waiting, rfl⟩ := mem_of_exchange? found
  refine ⟨exchange, waiting, [], rfl, ?_⟩
  unfold giveUp
  split
  next inquiry listens =>
    exact .abandon _ _ (by rw [listens]; rfl)
  next =>
    exact .leave

/-- Whatever is done for a request, the request goes on in one of the ways that are listed. -/
theorem advance_of_occur?
    (own : occurrence.ticket? = some ticket)
    (made : service.occur? occurrence = some next) :
    ∃ exchange ∈ service.exchanges, ∃ added,
      exchange.ticket = ticket ∧ Advance service exchange added next := by
  unfold Occurrence.ticket? at own
  split at own <;> cases own
  · exact advance_attend? made
  · exact advance_leave? made

/-! ## What is no request's doing -/

/-- What no request does leaves the limit and the version as they are, adds nothing to the queue,
and neither lets requests in nor lets them go. -/
structure Apart (service next : Service) : Prop where
  limit : next.limit? = service.limit?
  version : next.version = service.version
  queue : next.queue <:+ service.queue
  exchanges : next.exchanges = service.exchanges
  replies : next.replies = service.replies
  fresh : next.fresh = service.fresh

/-- A worker takes the first job off the queue, or none. -/
theorem queue_work?
    {index : Nat}
    (made : service.work? index = some next) :
    next.queue <:+ service.queue := by
  unfold work? at made
  split at made
  · cases made
  next seat _ =>
    split at made
    · cases made
    · unfold compile? at made
      split at made
      next ticket compilation _ _ outcome _ =>
        obtain ⟨_, shape⟩ :=
          deliver_eq (service.occupy index .idle) ticket (.report (Worker.report outcome))
        cases made
        unfold finish
        rw [shape]
        exact List.suffix_refl _
      next =>
        obtain ⟨_, _, rfl⟩ := Option.map_eq_some_iff.1 made
        exact List.suffix_refl _
    · split at made
      next submission rest waiting =>
        cases made
        have shorter : rest <:+ service.queue := by
          rw [waiting]
          exact List.suffix_cons _ _
        unfold take
        split
        · exact shorter
        · obtain ⟨_, shape⟩ := deliver_eq { service with queue := rest } submission.ticket .nothing
          rw [shape]
          exact shorter
      next =>
        split at made
        · cases made
        · cases made
          unfold stop
          split <;> exact List.suffix_refl _

/-- What is neither a request that comes in nor done for one is no request's doing. -/
theorem apart_of_occur?
    (nobody : occurrence.ticket? = none)
    (quiet : occurrence.request? = none)
    (made : service.occur? occurrence = some next) :
    Apart service next := by
  cases occurrence with
  | change machine =>
      cases made
      exact ⟨rfl, rfl, List.suffix_refl _, rfl, rfl, rfl⟩
  | move move =>
      cases move with
      | receive request =>
          cases quiet
      | attend ticket =>
          cases nobody
      | leave ticket =>
          cases nobody
      | work index =>
          have shorter := queue_work? made
          obtain ⟨_, _, _, _, _, rfl⟩ := work?_eq made
          exact ⟨rfl, rfl, shorter, rfl, rfl, rfl⟩
      | run process =>
          obtain ⟨machine, _, rfl⟩ := Option.map_eq_some_iff.1 made
          exact ⟨rfl, rfl, List.suffix_refl _, rfl, rfl, rfl⟩
      | wait moment =>
          cases made
          exact ⟨rfl, rfl, List.suffix_refl _, rfl, rfl, rfl⟩
      | close =>
          simp only [occur?, step?, Option.ite_none_right_eq_some, Option.some.injEq] at made
          rw [← made.2]
          exact ⟨rfl, rfl, List.suffix_refl _, rfl, rfl, rfl⟩

/-! ## What an advance leaves -/

namespace Advance

/-- An advance leaves the limit and the workers as they are. -/
theorem frame (advance : Advance service exchange added next) :
    next.limit? = service.limit? ∧ next.seats = service.seats ∧ next.fresh = service.fresh := by
  cases advance <;> exact ⟨rfl, rfl, rfl⟩

theorem queue_eq (advance : Advance service exchange added next) :
    next.queue = service.queue ++ added := by
  cases advance with
  | enqueue job submits =>
      rfl
  | _ =>
      exact (List.append_nil _).symm

/-- Nothing is added to the queue but the job that a request has to submit. -/
theorem added_cases (advance : Advance service exchange added next) :
    added = [] ∨ ∃ job, exchange.errand = .submit job ∧ added = [⟨exchange.ticket, job⟩] := by
  cases advance with
  | enqueue job submits =>
      exact .inr ⟨job, submits, rfl⟩
  | _ =>
      exact .inl rfl

/-- Other requests wait on for what they were waiting for. -/
theorem mem_of_ne
    (advance : Advance service exchange added next)
    {other : Exchange}
    (apart : other.ticket ≠ exchange.ticket)
    (waits : other ∈ next.exchanges) :
    other ∈ service.exchanges := by
  have kept (errand : Errand)
      (listed : other ∈ (service.books.reassign exchange.ticket errand).exchanges) :
      other ∈ service.exchanges := by
    rcases Books.of_mem_reassign listed with ⟨_, before⟩ | ⟨own, _⟩
    · exact before
    · exact absurd own apart
  cases advance with
  | enqueue job submits =>
      exact kept _ waits
  | listen version machine inquiry asks =>
      exact kept _ waits
  | answer answer | tell version machine answer asks | leave | abandon version machine asks =>
      exact List.mem_of_mem_filter waits

/-- A request that is still waiting is the same request, and has just put its job into the queue or
listens. -/
theorem errand_of_mem
    (advance : Advance service exchange added next)
    {same : Exchange}
    (own : same.ticket = exchange.ticket)
    (waits : same ∈ next.exchanges) :
    (∃ before ∈ service.exchanges,
      before.ticket = same.ticket ∧ before.request = same.request) ∧
    ((∃ job, exchange.errand = .submit job ∧ same.errand = .collect job) ∨
      exchange.errand.job? = none ∧ ∃ inquiry, same.errand = .listen inquiry) := by
  have left (listed : same ∈ service.exchanges.filter (·.ticket != exchange.ticket)) : False := by
    have apart := (List.mem_filter.1 listed).2
    rw [bne_iff_ne] at apart
    exact apart own
  have changed (errand : Errand)
      (listed : same ∈ (service.books.reassign exchange.ticket errand).exchanges) :
      same.errand = errand ∧ ∃ before ∈ service.exchanges,
        before.ticket = same.ticket ∧ before.request = same.request := by
    rcases Books.of_mem_reassign listed with ⟨apart, _⟩ | ⟨_, changed⟩
    · exact absurd own apart
    · exact changed
  cases advance with
  | enqueue job submits =>
      obtain ⟨collects, before⟩ := changed _ waits
      exact ⟨before, .inl ⟨job, submits, collects⟩⟩
  | listen version machine inquiry asks =>
      obtain ⟨listens, before⟩ := changed _ waits
      exact ⟨before, .inr ⟨asks, inquiry, listens⟩⟩
  | answer answer | tell version machine answer asks | leave | abandon version machine asks =>
      exact (left waits).elim

/-- A request that has gone on has no job to submit any more. -/
theorem errand_ne_submit
    (advance : Advance service exchange added next)
    {same : Exchange}
    (own : same.ticket = exchange.ticket)
    (waits : same ∈ next.exchanges)
    (job : Job) :
    same.errand ≠ .submit job := by
  intro submits
  obtain ⟨_, ⟨_, _, collects⟩ | ⟨_, _, listens⟩⟩ := advance.errand_of_mem own waits
  · rw [submits] at collects
    cases collects
  · rw [submits] at listens
    cases listens

/-- A request is answered with what everybody may read. -/
theorem reads_of_mem
    (advance : Advance service exchange added next)
    {reply : Reply}
    (sent : reply ∈ next.replies) :
    reply ∈ service.replies ∨ Http.Sharing.originField ∈ reply.response.fields := by
  cases advance with
  | answer answer | tell version machine answer asks =>
      rcases List.mem_append.1 sent with before | now
      · exact .inl before
      · cases List.mem_singleton.1 now
        exact .inr (Route.originField_mem_complete _ _)
  | _ =>
      exact .inl sent

end Advance

namespace Receipt

/-- A request that comes in leaves all but the limit as it is. -/
theorem frame (receipt : Receipt service request next) :
    next.queue = service.queue ∧ next.version = service.version ∧
      next.machine = service.machine ∧ next.seats = service.seats ∧
      next.fresh = service.fresh + 1 := by
  cases receipt <;> exact ⟨rfl, rfl, rfl, rfl, rfl⟩

/-- The request that comes in is the only one that begins to wait. -/
theorem errand_of_mem
    (receipt : Receipt service request next)
    (waits : exchange ∈ next.exchanges) :
    exchange ∈ service.exchanges ∨ exchange.ticket = service.fresh ∧ exchange.request = request ∧
      (service.Passes request ∧
          exchange.errand = .submit (jobOf service.names service.fresh request) ∨
        request.IsInquiry ∧ exchange.errand = .inquire) := by
  cases receipt with
  | answered limit? answer spends refused told =>
      exact .inl (List.mem_of_mem_filter waits)
  | submits limit? passes =>
      rcases List.mem_append.1 waits with before | now
      · exact .inl before
      · cases List.mem_singleton.1 now
        exact .inr ⟨rfl, rfl, .inl ⟨passes, rfl⟩⟩
  | inquires inquires =>
      rcases List.mem_append.1 waits with before | now
      · exact .inl before
      · cases List.mem_singleton.1 now
        exact .inr ⟨rfl, rfl, .inr ⟨inquires, rfl⟩⟩

/-- A request is answered with what everybody may read. -/
theorem reads_of_mem
    (receipt : Receipt service request next)
    {reply : Reply}
    (sent : reply ∈ next.replies) :
    reply ∈ service.replies ∨ Http.Sharing.originField ∈ reply.response.fields := by
  cases receipt with
  | answered limit? answer spends refused told =>
      rcases List.mem_append.1 sent with before | now
      · exact .inl before
      · cases List.mem_singleton.1 now
        exact .inr (Route.originField_mem_complete _ _)
  | submits limit? passes | inquires inquires =>
      exact .inl sent

end Receipt

end Service

end CompilePlayground
