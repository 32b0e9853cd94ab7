import CompilePlayground.Proofs.Service.Entries

namespace CompilePlayground

open Posix

/-!
# Nobody waits in vain, and no job is left behind

As long as a request waits, the queue is open at both ends and every worker is there. A worker
stops only when the queue is empty and nobody is left who could fill it, so that all jobs are
done when the last worker has stopped.
-/

namespace Route

/-- The name of the field that tells what sort of body there is. -/
def sortName : String := "content-type"

/-- Being sent tells a client nothing new about the sort of a body. -/
theorem has_complete
    {request : Http.Request}
    (source : request.IsSource)
    (response : Http.Response) :
    (complete request response).has sortName = response.has sortName := by
  rw [complete_of_isSource source]
  unfold Http.Response.withDefault
  split <;>
    simp [Http.Response.has, Http.Sharing.share, Http.Response.withFields, sortName,
      Http.Sharing.fields, Http.Sharing.originField, Http.Sharing.varyField,
      Http.Field.ofText]

/-- A source that is refused for its client's sake is not told that it was deserted. -/
theorem complete_refusal_ne
    {request : Http.Request}
    (source : request.IsSource)
    (refusal : Refusal)
    (failure : ServiceFailure) :
    complete request refusal.response ≠
      complete request (Endpoint.Answer.failure failure).response := by
  intro same
  have silent : refusal.response.has sortName = false := by
    cases refusal <;> decide
  have telling : (Endpoint.Answer.failure failure).response.has sortName = true :=
    rfl
  have told := congrArg (fun response => response.has sortName) same
  simp only [has_complete source, silent, telling] at told
  cases told

end Route

namespace Books

variable {deeds more : Deeds} {books next : Books}

/-- A worker that stops has nothing left to do, and nobody is left who could bring more. -/
theorem Entry.stopping
    (entry : Entry books more next)
    {index : Nat}
    {before after : Seat}
    (was : books.seats[index]? = some before)
    (now : next.seats[index]? = some after)
    (manned : before.isManned = true)
    (left : after.isManned = false) :
    books.hasSender = false ∧ books.queue = [] := by
  have stays (same : next.seats = books.seats) : False := by
    rw [same, was, Option.some.injEq] at now
    subst now
    rw [manned] at left
    cases left
  have turns
      (place : Nat)
      (occupation : Occupation)
      (seats : next.seats = (books.occupy place occupation).seats)
      (goesOn : occupation ≠ .stopped) :
      False := by
    rw [seats] at now
    rcases seat_occupy now with ⟨_, same⟩ | ⟨_, turned, _⟩
    · rw [was, Option.some.injEq] at same
      subst same
      rw [manned] at left
      cases left
    · obtain ⟨duty, occupation⟩ := after
      cases turned
      cases occupation with
      | idle | busy =>
          cases left
      | stopped =>
          exact goesOn rfl
  cases entry with
  | stop place duty idle drained deserted =>
      exact ⟨deserted, drained⟩
  | take place submission rest idle first =>
      exact (turns place _ rfl nofun).elim
  | compile place ticket duty compilation machine stepped busy step =>
      exact (turns place _ rfl nofun).elim
  | finish place ticket duty compilation outcome busy ended =>
      obtain ⟨_, shape⟩ := deliver_eq (books.occupy place .idle) ticket
        (.report (Worker.report outcome))
      exact (turns place .idle (by rw [shape]) nofun).elim
  | discard place submission rest idle first =>
      obtain ⟨_, shape⟩ := deliver_eq { books with queue := rest } submission.ticket .nothing
      exact (stays (by rw [shape])).elim
  | nothing | respond | enlist | reject | collect | tell | listen | leave | enqueue | close =>
      exact (stays rfl).elim

/-- A request that waits is found under its ticket. -/
theorem Registered.exchange?_eq
    {service : Service}
    (law : Registered deeds service.books)
    {exchange : Exchange}
    (waiting : exchange ∈ service.exchanges) :
    service.exchange? exchange.ticket = some exchange := by
  have someone : (service.exchange? exchange.ticket).isSome = true := by
    unfold Service.exchange?
    rw [List.find?_isSome]
    exact ⟨exchange, waiting, by simp⟩
  obtain ⟨found, isFound⟩ := Option.isSome_iff_exists.1 someone
  obtain ⟨listed, same⟩ := Service.mem_of_exchange? isFound
  rw [isFound, law.unique listed waiting same]

/-- Where the job of a request that waits for a report can be: in the queue, in the hands of one
worker, or done and laid out. It is at one of these places only. -/
inductive Accounted
    (deeds : Deeds)
    (books : Books)
    (submission : Submission) :
    Prop where
  | queued
      (listed : submission ∈ books.queue)
      (free : ∀ index, ¬books.Holds index submission)
      (missing : ∀ delivery, (submission.ticket, delivery) ∉ books.deliveries)
  | held
      (index : Nat)
      (holds : books.Holds index submission)
      (alone : ∀ other, books.Holds other submission → other = index)
      (unlisted : submission ∉ books.queue)
      (missing : ∀ delivery, (submission.ticket, delivery) ∉ books.deliveries)
  | reported
      (index : Nat)
      (outcome : Outcome)
      (finished : Deed.finish index submission outcome ∈ deeds)
      (delivered :
        (submission.ticket, .report (Worker.report outcome)) ∈ books.deliveries)
      (unlisted : submission ∉ books.queue)
      (free : ∀ index, ¬books.Holds index submission)

/-- What is laid out under a ticket comes from a worker that is done with the job. -/
theorem Delivered.finished_of_mem
    (law : Delivered deeds books)
    {ticket : Nat}
    {delivery : Delivery}
    (laid : (ticket, delivery) ∈ books.deliveries) :
    ∃ entry ∈ deeds.finished, entry.2.ticket = ticket := by
  obtain ⟨index, submission, outcome, finished, own, _⟩ := law.reports _ laid
  exact ⟨(index, submission), Deeds.mem_finished.2 ⟨outcome, finished⟩, own⟩

/-- The laws account for the job of every request that waits for a report. -/
theorem Kept.accounted
    (laws : Kept deeds books)
    {exchange : Exchange}
    {job : Job}
    (waiting : exchange ∈ books.exchanges)
    (collects : exchange.errand = .collect job) :
    Accounted deeds books ⟨exchange.ticket, job⟩ := by
  have enqueued := laws.queued.sent exchange waiting job collects
  rw [laws.queued.order, List.mem_append, List.mem_map] at enqueued
  rcases enqueued with ⟨⟨index, submission⟩, taken, rfl⟩ | listed
  · have unlisted : Submission.mk exchange.ticket job ∉ books.queue := by
      intro listed
      exact laws.queued.ne_of_taken taken listed rfl
    rcases laws.worked.placed index _ taken with holds | done
    · apply Accounted.held index holds
      case alone =>
        intro other otherHolds
        have one := laws.queued.taken_unique (laws.worked.held other _ otherHolds).1 taken rfl
        exact congrArg Prod.fst one
      case unlisted =>
        exact unlisted
      case missing =>
        intro delivery laid
        obtain ⟨entry, finished, own⟩ := laws.delivered.finished_of_mem laid
        exact (laws.worked.held index _ holds).2 entry finished own
    · obtain ⟨outcome, finished⟩ := Deeds.mem_finished.1 done
      apply Accounted.reported index outcome finished
      case delivered =>
        exact laws.delivered.complete index _ outcome finished exchange waiting rfl
      case unlisted =>
        exact unlisted
      case free =>
        intro other holds
        exact (laws.worked.held other _ holds).2 _ done rfl
  · apply Accounted.queued listed
    case free =>
      intro index holds
      exact laws.queued.ne_of_taken (laws.worked.held index _ holds).1 listed rfl
    case missing =>
      intro delivery laid
      obtain ⟨entry, finished, own⟩ := laws.delivered.finished_of_mem laid
      exact laws.queued.ne_of_taken (laws.worked.finished entry finished) listed own

end Books

namespace Service

variable {service next reached : Service} {move : Move} {moves : List Move} {holder : Holder}

/-- A handle on the queue is held by the router while it is open, and by each request that waits. -/
theorem mem_holders :
    holder ∈ service.holders ↔
      holder = .router ∧ service.isOpen = true ∨
        ∃ exchange ∈ service.exchanges, holder = .request exchange.ticket := by
  unfold holders
  rw [List.mem_append, List.mem_map]
  cases service.isOpen <;> simp [eq_comm]

/-- A handle is copied from the router's for a request that comes in, and from no other. Whoever
else holds one after a move has held one before. -/
theorem holds_of_step?
    (made : service.step? move = some next)
    (holds : holder ∈ next.holders) :
    holder ∈ service.holders ∨
      holder = .request service.fresh ∧ .router ∈ service.holders := by
  have entry := entry_of_step? made
  rcases mem_holders.1 holds with ⟨rfl, isOpen⟩ | ⟨exchange, waits, rfl⟩
  · exact .inl (mem_holders.2 (.inl ⟨rfl, entry.wasOpen isOpen⟩))
  · rcases entry.waited_or_arrived waits with ⟨before, listed, same⟩ | ⟨now, isOpen⟩
    · exact .inl (mem_holders.2 (.inr ⟨before, listed, by rw [same]⟩))
    · exact .inr ⟨congrArg Holder.request now, mem_holders.2 (.inl ⟨rfl, isOpen⟩)⟩

/-- Nobody holds a handle on the queue once the router is closed and no request waits. -/
theorem hasSender_eq_false_iff :
    service.hasSender = false ↔ service.isOpen = false ∧ service.exchanges = [] := by
  rw [← books_hasSender, Books.hasSender, Bool.or_eq_false_iff, Bool.not_eq_false',
    List.isEmpty_iff]
  rfl

/-- Once nobody holds a handle on the queue, nobody is given one. -/
theorem hasSender_of_step?
    (made : service.step? move = some next)
    (closed : service.hasSender = false) :
    next.hasSender = false := by
  unfold hasSender at closed ⊢
  rw [Bool.not_eq_false', List.isEmpty_iff] at closed ⊢
  refine List.eq_nil_iff_forall_not_mem.2 fun holder holds => ?_
  rcases holds_of_step? made holds with before | ⟨_, router⟩
  · rw [closed] at before
    cases before
  · rw [closed] at router
    cases router

/-- The queue is closed when nobody is left to fill it, or nobody to empty it. -/
def isQueueClosed (service : Service) : Bool :=
  !service.hasSender || !service.hasReceiver

/-- No request waits in vain, and no job is left behind. -/
structure Unstranded
    (host : Host)
    (settings : CompilerSettings)
    (service : Service)
    (deeds : Deeds) :
    Prop where
  /-- While a request waits, the queue is open and every worker is there. -/
  manned : ∀ exchange ∈ service.exchanges, service.isQueueClosed = false ∧
    ∀ seat ∈ service.seats, seat.isManned = true
  /-- A request that has a job to send finds a queue that takes it. -/
  accepted : ∀ exchange ∈ service.exchanges, ∀ job, exchange.errand = .submit job →
    ∃ next, service.attend? exchange.ticket = some next ∧
      next.queue = service.queue ++ [⟨exchange.ticket, job⟩]
  /-- The job of a request that waits for a report is at one place. -/
  accounted : ∀ exchange ∈ service.exchanges, ∀ job, exchange.errand = .collect job →
    Books.Accounted deeds service.books ⟨exchange.ticket, job⟩
  /-- No job is dropped by the worker that took it. -/
  kept : ∀ entry ∈ service.deliveries, ∃ report, entry.2 = .report report
  /-- No client is told that it was deserted. -/
  untold : ∀ reply ∈ service.replies, ∃ request,
    deeds.received[reply.ticket]? = some request ∧
      (request.IsSource → reply.response.status ≠ ServiceFailure.queueClosed.status ∧
        ∀ failure : ServiceFailure,
          reply.response ≠ Route.complete request (Endpoint.Answer.failure failure).response)
  /-- A worker stops only when nobody is left who could fill the queue, and it is empty. -/
  stopping : ∀ move next, service.step? move = some next →
    ∀ (index : Nat) (before after : Seat), service.seats[index]? = some before →
      next.seats[index]? = some after → before.isManned = true → after.isManned = false →
        service.hasSender = false ∧ service.queue = []
  /-- When all workers have stopped, every job that was put into the queue is done. -/
  drained : (∀ seat ∈ service.seats, seat.isManned = false) → service.queue = [] ∧
    ∀ submission ∈ deeds.enqueued, ∃ index outcome,
      Deed.finish index submission outcome ∈ deeds ∧
        deeds.Compiled host settings submission outcome

end Service

namespace Books

/-- The laws make sure that no request waits in vain. -/
theorem Kept.unstranded
    {host : Host}
    {settings : CompilerSettings}
    {service : Service}
    (laws : Kept deeds service.books)
    (sameHost : service.host = host)
    (sameSettings : service.settings = settings) :
    Service.Unstranded host settings service deeds := by
  subst sameHost sameSettings
  have sender {exchange : Exchange} (waiting : exchange ∈ service.exchanges) :
      service.books.hasSender = true :=
    Staffed.sender_of_mem waiting
  have receiver {exchange : Exchange} (waiting : exchange ∈ service.exchanges) :
      service.hasReceiver = true :=
    laws.staffed.hasReceiver (sender waiting)
  constructor
  case manned =>
    intro exchange waiting
    refine ⟨?_, fun seat listed => laws.staffed.isManned (sender waiting) listed⟩
    unfold Service.isQueueClosed
    rw [← Service.books_hasSender, sender waiting, receiver waiting]
    rfl
  case accepted =>
    intro exchange waiting job submits
    refine ⟨service.submit exchange job, ?_, ?_⟩
    · unfold Service.attend?
      simp only [laws.registered.exchange?_eq waiting, submits]
    · unfold Service.submit
      rw [if_pos (receiver waiting)]
      rfl
  case accounted =>
    intro exchange waiting job collects
    exact laws.accounted waiting collects
  case kept =>
    intro entry laid
    obtain ⟨_, _, outcome, _, _, report⟩ := laws.delivered.reports entry laid
    exact ⟨Worker.report outcome, report⟩
  case untold =>
    intro reply sent
    obtain ⟨request, known, answered⟩ := laws.replied reply sent
    refine ⟨request, known, ?_⟩
    intro source
    cases answered source with
    | report index submission outcome finished own rendered =>
        have allWell : reply.response.status = 200 := by
          rw [rendered, Route.status_complete source]
          rfl
        refine ⟨by rw [allWell]; decide, ?_⟩
        intro failure same
        rw [same, Route.status_complete source] at allWell
        cases failure <;> cases allWell
    | refusal refusal refused =>
        rw [refused, Route.status_complete source]
        refine ⟨?_, Route.complete_refusal_ne source refusal⟩
        cases refusal <;> decide
  case stopping =>
    intro move next made index before after was now manned left
    rw [← Service.books_hasSender]
    exact (Service.entry_of_step? made).stopping was now manned left
  case drained =>
    intro gone
    have deserted : service.hasReceiver = false := by
      unfold Service.hasReceiver
      rw [List.any_eq_false]
      intro seat listed
      rw [gone seat listed]
      decide
    refine ⟨laws.staffed.queue_eq_nil deserted, ?_⟩
    intro submission enqueued
    obtain ⟨⟨index, _⟩, done, rfl⟩ :=
      List.mem_map.1 ((laws.finished_perm deserted).mem_iff.2 enqueued)
    obtain ⟨outcome, finished⟩ := Deeds.mem_finished.1 done
    exact ⟨index, outcome, finished, laws.worked.ended _ _ _ finished⟩

end Books

namespace Service

/-- Whatever happens, no request waits in vain, and no job is left behind. -/
theorem unstranded_of_run
    {host : Host}
    {settings : CompilerSettings}
    {pageName : Bytes}
    {rate? : Option Nat}
    {workers : Nat}
    {names : Nat → String}
    {machine : Machine}
    {moves : List Move}
    {service : Service}
    (run : (launch host settings pageName rate? workers machine names).steps? moves =
      some service) :
    Unstranded host settings service
      ((launch host settings pageName rate? workers machine names).history moves) := by
  obtain ⟨sameHost, sameSettings, _⟩ := steps?_settings run
  exact (kept_of_run run).unstranded sameHost sameSettings

namespace Sample

/-- A service for which no workers were asked. -/
def lone : Service :=
  launch host settings [] none 0 machine

/-- Two clients send a source each, a worker takes one of them, and the service is closed. -/
def halfway : List Move :=
  [.receive (request [97]), .receive (request [98]), .attend 0, .attend 1, .work 0, .close]

end Sample

/-- A run after which both clients wait, one for a worker and one for its turn. -/
theorem unstranded_of_run_of_one :
    ∃ reached, Sample.lone.steps? Sample.halfway = some reached ∧
      (reached.exchanges.length, reached.queue.length) = (2, 1) ∧
      Unstranded Sample.host Sample.settings reached
        (Sample.lone.history Sample.halfway) := by
  have made :
      (Sample.lone.steps? Sample.halfway).map
        (fun reached => (reached.exchanges.length, reached.queue.length)) = some (2, 1) := by
    decide +kernel
  obtain ⟨reached, run, counts⟩ := Option.map_eq_some_iff.1 made
  exact ⟨reached, run, counts, unstranded_of_run run⟩

end Service

end CompilePlayground
