import CompilePlayground.Proofs.Service.Working

namespace CompilePlayground.Books

open Posix

/-!
# What clients get

What a worker has come to is laid out for its client, if the client still waits, and a client is
told nothing else. The last statements put all laws together: they hold when a service is
launched, and every move keeps them.
-/

variable {deeds more : Deeds} {books next : Books}

namespace Delivered

/-- The law stays when no job is finished and what is laid out stays as long as its client
waits. -/
theorem quiet
    (law : Delivered deeds books)
    (finished : more.finished = [])
    (fewer : next.deliveries.Sublist books.deliveries)
    (awaited : ∀ entry ∈ next.deliveries, ∃ exchange ∈ next.exchanges,
      exchange.ticket = entry.1)
    (stays : ∀ entry ∈ books.deliveries, ∀ exchange ∈ next.exchanges,
      exchange.ticket = entry.1 → entry ∈ next.deliveries)
    (waits : ∀ exchange ∈ next.exchanges,
      (∃ before ∈ books.exchanges, before.ticket = exchange.ticket) ∨
        ∀ entry ∈ deeds.finished, exchange.ticket ≠ entry.2.ticket) :
    Delivered (deeds ++ more) next where
  reports entry listed := by
    obtain ⟨index, submission, outcome, done, own, report⟩ :=
      law.reports entry (fewer.subset listed)
    exact ⟨index, submission, outcome, List.mem_append_left _ done, own, report⟩
  distinct :=
    law.distinct.sublist (fewer.map _)
  awaited := awaited
  complete index submission outcome member exchange listed own := by
    have before : Deed.finish index submission outcome ∈ deeds :=
      Deeds.mem_of_finish finished member
    rcases waits exchange listed with ⟨earlier, waited, same⟩ | unfinished
    · have there :=
        law.complete index submission outcome before earlier waited (same.trans own)
      exact stays _ there exchange listed own
    · exact absurd own (unfinished _ (Deeds.mem_finished.2 ⟨outcome, before⟩))

/-- The law stays when a request is let go. -/
theorem dismiss
    (law : Delivered deeds books)
    (finished : more.finished = [])
    (ticket : Nat)
    (deliveries : next.deliveries = (books.dismiss ticket).deliveries)
    (exchanges : next.exchanges = (books.dismiss ticket).exchanges) :
    Delivered (deeds ++ more) next := by
  apply law.quiet finished
  case fewer =>
    rw [deliveries]
    exact List.filter_sublist
  case awaited =>
    intro entry listed
    rw [deliveries] at listed
    simp only [Books.dismiss, List.mem_filter, bne_iff_ne, ne_eq] at listed
    obtain ⟨exchange, waits, same⟩ := law.awaited entry listed.1
    refine ⟨exchange, ?_, same⟩
    rw [exchanges, mem_dismiss, same]
    exact ⟨waits, listed.2⟩
  case stays =>
    intro entry listed exchange waits same
    rw [exchanges, mem_dismiss] at waits
    rw [deliveries]
    simp only [Books.dismiss, List.mem_filter, bne_iff_ne, ne_eq]
    exact ⟨listed, same ▸ waits.2⟩
  case waits =>
    intro exchange waits
    rw [exchanges, mem_dismiss] at waits
    exact .inl ⟨exchange, waits.1, rfl⟩

/-- The law stays when the errand of a request is set. -/
theorem reassign
    (law : Delivered deeds books)
    (finished : more.finished = [])
    (ticket : Nat)
    (errand : Errand)
    (deliveries : next.deliveries = books.deliveries)
    (exchanges : next.exchanges = (books.reassign ticket errand).exchanges) :
    Delivered (deeds ++ more) next := by
  have tickets := reassign_tickets books ticket errand
  rw [← exchanges] at tickets
  apply law.quiet finished
  case fewer =>
    rw [deliveries]
  case awaited =>
    intro entry listed
    rw [deliveries] at listed
    obtain ⟨exchange, waits, same⟩ := law.awaited entry listed
    have listed : entry.1 ∈ next.exchanges.map Exchange.ticket := by
      rw [tickets]
      exact List.mem_map.2 ⟨exchange, waits, same⟩
    exact List.mem_map.1 listed
  case stays =>
    intro entry listed _ _ _
    rw [deliveries]
    exact listed
  case waits =>
    intro exchange waits
    have listed : exchange.ticket ∈ books.exchanges.map Exchange.ticket := by
      rw [← tickets]
      exact List.mem_map_of_mem waits
    exact .inl (List.mem_map.1 listed)

/-- The law stays when a worker is done with a job and hands over what has come of it. -/
theorem finish
    (law : Delivered deeds books)
    (worked : Worked deeds books)
    (index ticket : Nat)
    (duty : Duty)
    (compilation : Compilation)
    (outcome : Outcome)
    (busy : books.seats[index]? = some ⟨duty, .busy ticket compilation⟩) :
    Delivered (deeds ++ [.finish index ⟨ticket, compilation.job⟩ outcome])
      ((books.occupy index .idle).deliver ticket (.report (Worker.report outcome))) := by
  obtain ⟨deliveries, shape⟩ := deliver_eq (books.occupy index .idle)
        ticket (.report (Worker.report outcome))
  have exchanges :
      ((books.occupy index .idle).deliver ticket
        (.report (Worker.report outcome))).exchanges = books.exchanges := by
    rw [shape]
    rfl
  have unfinished := (worked.held _ _ (Worked.holds_of_busy busy)).2
  have undelivered (entry : Nat × Delivery) (listed : entry ∈ books.deliveries) :
      entry.1 ≠ ticket := by
    obtain ⟨other, submission, result, done, own, _⟩ := law.reports entry listed
    rw [← own]
    exact unfinished (other, submission) (Deeds.mem_finished.2 ⟨result, done⟩)
  constructor
  case reports =>
    intro entry listed
    rcases of_mem_deliver listed with before | ⟨rfl, _⟩
    · obtain ⟨other, submission, result, done, own, report⟩ := law.reports entry before
      exact ⟨other, submission, result, List.mem_append_left _ done, own, report⟩
    · exact ⟨index, ⟨ticket, compilation.job⟩, outcome,
        List.mem_append_right _ (List.mem_singleton_self _), rfl, rfl⟩
  case distinct =>
    unfold deliver
    split
    · simp only [List.map_append, List.map_singleton]
      rw [List.nodup_append]
      refine ⟨law.distinct, List.nodup_singleton _, ?_⟩
      intro earlier listed added member
      obtain ⟨entry, delivered, rfl⟩ := List.mem_map.1 listed
      rw [List.mem_singleton] at member
      subst member
      exact undelivered entry delivered
    · exact law.distinct
  case awaited =>
    intro entry listed
    rw [exchanges]
    rcases of_mem_deliver listed with before | ⟨rfl, waits⟩
    · exact law.awaited entry before
    · exact waits
  case complete =>
    intro other submission result member exchange listed own
    rw [exchanges] at listed
    rw [List.mem_append, List.mem_singleton] at member
    unfold deliver
    rcases member with earlier | added
    · have there := law.complete other submission result earlier exchange listed own
      split
      · exact List.mem_append_left _ there
      · exact there
    · cases added
      have waits : ((books.occupy index .idle).exchange? ticket).isSome = true := by
        unfold exchange?
        rw [List.find?_isSome]
        exact ⟨exchange, listed, by simpa using own⟩
      rw [if_pos waits]
      exact List.mem_append_right _ (List.mem_singleton_self _)

/-- The law is kept by every entry. -/
theorem entry
    (law : Delivered deeds books)
    (registered : Registered deeds books)
    (queued : Queued deeds books)
    (worked : Worked deeds books)
    (staffed : Staffed books)
    (entry : Entry books more next) :
    Delivered (deeds ++ more) next := by
  cases entry with
  | respond request response isOpen refused =>
      exact law.dismiss rfl books.fresh rfl rfl
  | enlist request errand isOpen known =>
      apply law.quiet rfl
      case fewer =>
        exact List.Sublist.refl _
      case awaited =>
        intro entry listed
        obtain ⟨exchange, waits, same⟩ := law.awaited entry listed
        exact ⟨exchange, List.mem_append_left _ waits, same⟩
      case stays =>
        intro entry listed _ _ _
        exact listed
      case waits =>
        intro exchange listed
        rcases List.mem_append.1 listed with earlier | added
        · exact .inl ⟨exchange, earlier, rfl⟩
        · right
          rw [List.mem_singleton] at added
          subst added
          intro entry done
          have enqueued := queued.enqueued_of_taken (worked.finished entry done)
          exact (Nat.ne_of_lt (queued.lt_fresh registered enqueued)).symm
  | reject exchange response waiting deserted =>
      exact law.dismiss rfl exchange.ticket rfl rfl
  | collect exchange delivery response waiting delivered told =>
      exact law.dismiss rfl exchange.ticket rfl rfl
  | tell exchange response waiting idle =>
      exact law.dismiss rfl exchange.ticket rfl rfl
  | leave ticket =>
      exact law.dismiss rfl ticket rfl rfl
  | listen exchange inquiry waiting idle =>
      exact law.reassign rfl exchange.ticket (.listen inquiry) rfl rfl
  | enqueue exchange job waiting submits =>
      exact law.reassign rfl exchange.ticket (.collect job) rfl rfl
  | discard index submission rest idle first =>
      have duty := staffed.duty _ (List.mem_of_getElem? idle)
      cases duty
  | finish index ticket duty compilation outcome busy ended =>
      exact law.finish worked index ticket duty compilation outcome busy
  | nothing | take | compile | stop | close =>
      exact law.quiet rfl (List.Sublist.refl _) law.awaited (fun _ listed _ _ _ => listed)
        fun exchange listed => .inl ⟨exchange, listed, rfl⟩

end Delivered

namespace Staffed

/-- While anyone could bring more to do, no worker has stopped. -/
theorem isManned
    (law : Staffed books)
    (sender : books.hasSender = true)
    {seat : Seat}
    (listed : seat ∈ books.seats) :
    seat.isManned = true := by
  obtain ⟨duty, occupation⟩ := seat
  cases occupation with
  | idle | busy =>
      rfl
  | stopped =>
      have deserted := (law.stopped _ listed rfl).1
      rw [sender] at deserted
      cases deserted

/-- While anyone could bring more to do, there is someone to do it. -/
theorem hasReceiver
    (law : Staffed books)
    (sender : books.hasSender = true) :
    books.hasReceiver = true := by
  obtain ⟨seat, listed⟩ := List.exists_mem_of_ne_nil _ law.some
  unfold Books.hasReceiver
  rw [List.any_eq_true]
  exact ⟨seat, listed, law.isManned sender listed⟩

/-- The law stays when the workers do, and when those who could bring more are not gone if they
were not before. -/
theorem quiet
    (law : Staffed books)
    (seats : next.seats = books.seats)
    (deserted : books.hasSender = false → books.queue = [] →
      next.hasSender = false ∧ next.queue = []) :
    Staffed next where
  some := by
    rw [seats]
    exact law.some
  duty seat listed := by
    rw [seats] at listed
    exact law.duty seat listed
  stopped seat listed stopped := by
    rw [seats] at listed
    obtain ⟨gone, drained⟩ := law.stopped seat listed stopped
    exact deserted gone drained

/-- The law stays when a worker turns to something else, and may stop only if there is nothing
left to do. -/
theorem occupy
    (law : Staffed books)
    (index : Nat)
    (occupation : Occupation)
    (seats : next.seats = (books.occupy index occupation).seats)
    (deserted : books.hasSender = false → books.queue = [] →
      next.hasSender = false ∧ next.queue = [])
    (stopping : occupation = .stopped → next.hasSender = false ∧ next.queue = []) :
    Staffed next where
  some := by
    rw [seats]
    simpa [Books.occupy] using law.some
  duty seat listed := by
    rw [seats] at listed
    obtain ⟨place, found⟩ := List.mem_iff_getElem?.1 listed
    rcases seat_occupy found with ⟨_, before⟩ | ⟨_, _, before, was, same⟩
    · exact law.duty seat (List.mem_of_getElem? before)
    · rw [← same]
      exact law.duty before (List.mem_of_getElem? was)
  stopped seat listed stopped := by
    rw [seats] at listed
    obtain ⟨place, found⟩ := List.mem_iff_getElem?.1 listed
    rcases seat_occupy found with ⟨_, before⟩ | ⟨_, now, _⟩
    · obtain ⟨gone, drained⟩ := law.stopped seat (List.mem_of_getElem? before) stopped
      exact deserted gone drained
    · exact stopping (now.symm.trans stopped)

/-- Nobody comes back once all are gone. -/
theorem deserted_of_fewer
    (deserted : books.hasSender = false)
    (isOpen : next.isOpen = books.isOpen)
    (fewer : books.exchanges = [] → next.exchanges = []) :
    next.hasSender = false := by
  unfold hasSender at deserted ⊢
  rw [Bool.or_eq_false_iff, Bool.not_eq_false', List.isEmpty_iff] at deserted ⊢
  rw [isOpen]
  exact ⟨deserted.1, fewer deserted.2⟩

/-- Someone is there while a request waits. -/
theorem sender_of_mem
    {exchange : Exchange}
    (waiting : exchange ∈ books.exchanges) :
    books.hasSender = true := by
  unfold hasSender
  rw [Bool.or_eq_true, Bool.not_eq_true', List.isEmpty_eq_false_iff]
  exact .inr (List.ne_nil_of_mem waiting)

theorem sender_of_isOpen
    (isOpen : books.isOpen = true) :
    books.hasSender = true := by
  unfold hasSender
  rw [isOpen]
  rfl

/-- The law is kept by every entry. -/
theorem entry
    (law : Staffed books)
    (entry : Entry books more next) :
    Staffed next := by
  cases entry with
  | nothing =>
      exact law
  | respond request response isOpen refused =>
      refine law.quiet rfl ?_
      intro deserted
      rw [sender_of_isOpen isOpen] at deserted
      cases deserted
  | enlist request errand isOpen known =>
      refine law.quiet rfl ?_
      intro deserted
      rw [sender_of_isOpen isOpen] at deserted
      cases deserted
  | enqueue exchange job waiting submits =>
      refine law.quiet rfl ?_
      intro deserted
      rw [sender_of_mem waiting] at deserted
      cases deserted
  | reject | collect | tell | leave =>
      refine law.quiet rfl ?_
      intro deserted drained
      refine ⟨deserted_of_fewer deserted rfl ?_, drained⟩
      intro none
      exact (congrArg (List.filter _) none).trans List.filter_nil
  | listen exchange inquiry waiting idle =>
      refine law.quiet rfl ?_
      intro deserted drained
      refine ⟨deserted_of_fewer deserted rfl ?_, drained⟩
      intro none
      exact (congrArg (List.map _) none).trans List.map_nil
  | take index submission rest idle first =>
      refine law.occupy index _ rfl ?_ (by rintro ⟨⟩)
      intro _ drained
      rw [first] at drained
      cases drained
  | discard index submission rest idle first =>
      have duty := law.duty _ (List.mem_of_getElem? idle)
      cases duty
  | compile index ticket duty compilation machine stepped busy step =>
      exact law.occupy index _ rfl (fun deserted drained => ⟨deserted, drained⟩) (by rintro ⟨⟩)
  | finish index ticket duty compilation outcome busy ended =>
      obtain ⟨deliveries, shape⟩ := deliver_eq (books.occupy index .idle)
        ticket (.report (Worker.report outcome))
      rw [shape]
      exact law.occupy index _ rfl (fun deserted drained => ⟨deserted, drained⟩) (by rintro ⟨⟩)
  | stop index duty idle drained deserted =>
      exact law.occupy index _ rfl (fun deserted drained => ⟨deserted, drained⟩)
        fun _ => ⟨deserted, drained⟩
  | close =>
      refine law.quiet rfl ?_
      intro deserted drained
      refine ⟨?_, drained⟩
      unfold hasSender at deserted ⊢
      rw [Bool.or_eq_false_iff] at deserted
      simpa using deserted.2

end Staffed

/-- An answer stays right when more happens. -/
theorem Answered.grow
    {ticket : Nat}
    {request : Http.Request}
    {response : Http.Response}
    (answered : Answered deeds ticket request response)
    (more : Deeds) :
    Answered (deeds ++ more) ticket request response := by
  cases answered with
  | report index submission outcome finished own rendered =>
      exact .report index submission outcome (List.mem_append_left _ finished) own rendered
  | refusal refusal refused =>
      exact .refusal refusal refused

namespace Replied

/-- The law stays when nothing is sent. -/
theorem quiet
    (law : Replied deeds books)
    (replies : next.replies = books.replies) :
    Replied (deeds ++ more) next := by
  intro reply sent
  rw [replies] at sent
  obtain ⟨request, known, answered⟩ := law reply sent
  exact ⟨request, Deeds.received_grows known more, fun source => (answered source).grow more⟩

/-- The law stays when one more response is sent that answers its request. -/
theorem send
    (law : Replied deeds books)
    (ticket : Nat)
    (request : Http.Request)
    (response : Http.Response)
    (replies : next.replies = books.replies ++ [⟨ticket, response⟩])
    (known : (deeds ++ more).received[ticket]? = some request)
    (answered : request.IsSource → Answered (deeds ++ more) ticket request response) :
    Replied (deeds ++ more) next := by
  intro reply sent
  rw [replies, List.mem_append, List.mem_singleton] at sent
  rcases sent with earlier | rfl
  · exact law.quiet rfl reply earlier
  · exact ⟨request, known, answered⟩

/-- The law is kept by every entry. -/
theorem entry
    (law : Replied deeds books)
    (registered : Registered deeds books)
    (delivered : Delivered deeds books)
    (staffed : Staffed books)
    (entry : Entry books more next) :
    Replied (deeds ++ more) next := by
  cases entry with
  | respond request response isOpen refused =>
      apply law.send books.fresh request response rfl
      case known =>
        simp [registered.fresh]
      case answered =>
        intro source
        obtain ⟨refusal, shape⟩ := refused source
        exact .refusal refusal shape
  | reject exchange response waiting deserted =>
      rw [staffed.hasReceiver (Staffed.sender_of_mem waiting)] at deserted
      cases deserted
  | collect exchange delivery response waiting ready told =>
      obtain ⟨index, submission, outcome, finished, own, report⟩ :=
        delivered.reports _ ready
      apply law.send exchange.ticket exchange.request response rfl
      case known =>
        exact Deeds.received_grows (registered.known exchange waiting) _
      case answered =>
        intro _
        exact .report index submission outcome (List.mem_append_left _ finished) own
          (told _ report)
  | tell exchange response waiting idle =>
      apply law.send exchange.ticket exchange.request response rfl
      case known =>
        exact Deeds.received_grows (registered.known exchange waiting) _
      case answered =>
        intro source
        exact absurd source (registered.others exchange waiting idle)
  | discard index submission rest idle first =>
      have duty := staffed.duty _ (List.mem_of_getElem? idle)
      cases duty
  | finish index ticket duty compilation outcome busy ended =>
      obtain ⟨deliveries, shape⟩ := deliver_eq (books.occupy index .idle)
        ticket (.report (Worker.report outcome))
      rw [shape]
      exact law.quiet rfl
  | nothing | enlist | listen | leave | enqueue | take | compile | stop | close =>
      exact law.quiet rfl

end Replied

/-- All laws are kept by every entry. -/
theorem Kept.entry
    (law : Kept deeds books)
    (entry : Entry books more next) :
    Kept (deeds ++ more) next where
  registered := law.registered.entry entry
  queued := law.queued.entry law.registered law.staffed entry
  worked := law.worked.entry law.queued law.staffed entry
  delivered := law.delivered.entry law.registered law.queued law.worked law.staffed entry
  staffed := law.staffed.entry entry
  replied := law.replied.entry law.registered law.delivered law.staffed entry

end CompilePlayground.Books

namespace CompilePlayground.Service

open Posix Books

/-- All laws hold when a service is launched, however few workers are asked for. -/
theorem kept_launch
    (host : Host)
    (settings : CompilerSettings)
    (pageName : Bytes)
    (rate? : Option Nat)
    (workers : Nat)
    (machine : Machine)
    (names : Nat → String) :
    Kept [] (launch host settings pageName rate? workers machine names).books := by
  have seats :
      (launch host settings pageName rate? workers machine names).books.seats =
        List.replicate (workerCount workers) (Seat.ofDuty .compile) :=
    List.map_replicate
  have idle : ∀ seat ∈ (launch host settings pageName rate? workers machine names).books.seats,
      seat = Seat.ofDuty .compile := by
    intro seat listed
    rw [seats] at listed
    exact List.eq_of_mem_replicate listed
  constructor
  case registered =>
    exact ⟨rfl, List.nodup_nil, nofun, nofun, nofun⟩
  case queued =>
    exact ⟨rfl, List.nodup_nil, nofun, nofun, nofun⟩
  case worked =>
    refine ⟨?_, nofun, nofun, List.nodup_nil, nofun, ?_, nofun⟩
    · rintro index submission ⟨duty, compilation, found, _⟩
      cases idle _ (List.mem_of_getElem? found)
    · intro index duty ticket compilation found
      cases idle _ (List.mem_of_getElem? found)
  case delivered =>
    exact ⟨nofun, List.nodup_nil, nofun, nofun⟩
  case staffed =>
    refine ⟨?_, ?_, ?_⟩
    · rw [seats, ne_eq, List.replicate_eq_nil_iff]
      unfold workerCount
      omega
    · intro seat listed
      rw [idle seat listed]
      rfl
    · intro seat listed stopped
      rw [idle seat listed] at stopped
      cases stopped
  case replied =>
    exact nofun

/-- What a run does is what its first move does and then what its other moves do. -/
theorem history_cons
    {service next : Service}
    {move : Move}
    (made : service.step? move = some next)
    (rest : List Move) :
    service.history (move :: rest) = service.deeds move ++ next.history rest := by
  rw [history, made]

/-- All laws stay on every run. -/
theorem kept_steps?
    {deeds : Deeds}
    {service reached : Service}
    {moves : List Move}
    (law : Kept deeds service.books)
    (run : service.steps? moves = some reached) :
    Kept (deeds ++ service.history moves) reached.books := by
  induction moves generalizing deeds service with
  | nil =>
      cases run
      simpa [history] using law
  | cons move rest inductionHypothesis =>
      unfold steps? at run
      rw [List.foldlM_cons, Option.bind_eq_bind, Option.bind_eq_some_iff] at run
      obtain ⟨next, made, onward⟩ := run
      rw [history_cons made, ← List.append_assoc]
      exact inductionHypothesis (law.entry (entry_of_step? made)) onward

end CompilePlayground.Service
