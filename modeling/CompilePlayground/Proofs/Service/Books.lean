import CompilePlayground.Proofs.Service.Deeds

namespace CompilePlayground

open Posix

/-!
# The books of the service

Of all that a service holds, the `Books` keep what requests and jobs pass through: the queue,
the places of the workers, the deliveries, and the requests and responses. `Books.Entry` lists
the changes that a move can make to them. `Service.entry_of_step?` shows that there are no
others, so that a law of the books need only be checked against this list.
-/

/-- A request for a compilation, which is what the workers are there for. -/
def Http.Request.IsSource (request : Http.Request) : Prop :=
  request.path = Route.compile.path ∧ request.method = "POST"

/-- The job that an errand is about. -/
def Errand.job? : Errand → Option Job
  | .submit job => some job
  | .collect job => some job
  | _ => none

/-- What requests and jobs pass through. -/
structure Books where
  host : Host
  settings : CompilerSettings
  isOpen : Bool
  queue : List Submission
  seats : List Seat
  deliveries : List (Nat × Delivery)
  exchanges : List Exchange
  replies : List Reply
  fresh : Nat
  names : Nat → String

namespace Books

/-- Whether anyone may still put jobs into the queue. -/
def hasSender (books : Books) : Bool :=
  books.isOpen || !books.exchanges.isEmpty

/-- Whether anyone takes jobs off the queue. -/
def hasReceiver (books : Books) : Bool :=
  books.seats.any Seat.isManned

/-- The request that waits under a ticket. -/
def exchange? (books : Books) (ticket : Nat) : Option Exchange :=
  books.exchanges.find? (·.ticket = ticket)

/-- Let a request go, with what was delivered for it. -/
def dismiss (books : Books) (ticket : Nat) : Books :=
  { books with
    exchanges := books.exchanges.filter (·.ticket != ticket),
    deliveries := books.deliveries.filter (·.1 != ticket) }

/-- Let a request go with a response. -/
def reply (books : Books) (ticket : Nat) (response : Http.Response) : Books :=
  { books.dismiss ticket with replies := books.replies ++ [⟨ticket, response⟩] }

/-- Change what is to be done for a request. -/
def reassign (books : Books) (ticket : Nat) (errand : Errand) : Books :=
  { books with
    exchanges := books.exchanges.map fun exchange =>
      if exchange.ticket = ticket then { exchange with errand } else exchange }

/-- Change what a worker is at. -/
def occupy (books : Books) (index : Nat) (occupation : Occupation) : Books :=
  { books with
    seats := books.seats.modify index fun seat => { seat with occupation } }

/-- Hand over what has come of a job, unless its client is gone. -/
def deliver (books : Books) (ticket : Nat) (delivery : Delivery) : Books :=
  if (books.exchange? ticket).isSome then
    { books with deliveries := books.deliveries ++ [(ticket, delivery)] }
  else
    books

/-- A change that a move makes, with what it does for requests and jobs. -/
inductive Entry (books : Books) : Deeds → Books → Prop where
  | nothing :
      Entry books [] books
  | respond
      (request : Http.Request)
      (response : Http.Response)
      (isOpen : books.isOpen = true)
      (refused : request.IsSource →
        ∃ refusal : Refusal, response = Route.complete request refusal.response) :
      Entry books [.receive request]
        ({ books with fresh := books.fresh + 1 }.reply books.fresh response)
  | enlist
      (request : Http.Request)
      (errand : Errand)
      (isOpen : books.isOpen = true)
      (known : errand = .inquire ∧ ¬request.IsSource ∨
        errand = .submit (Service.jobOf books.names books.fresh request) ∧ request.IsSource) :
      Entry books [.receive request]
        { books with
          fresh := books.fresh + 1,
          exchanges := books.exchanges ++ [⟨books.fresh, request, errand⟩] }
  | reject
      (exchange : Exchange)
      (response : Http.Response)
      (waiting : exchange ∈ books.exchanges)
      (deserted : books.hasReceiver = false) :
      Entry books [] (books.reply exchange.ticket response)
  | collect
      (exchange : Exchange)
      (delivery : Delivery)
      (response : Http.Response)
      (waiting : exchange ∈ books.exchanges)
      (delivered : (exchange.ticket, delivery) ∈ books.deliveries)
      (told : ∀ report : Report, delivery = .report report →
        response = Route.complete exchange.request (.plain 200 report.render)) :
      Entry books [] (books.reply exchange.ticket response)
  | tell
      (exchange : Exchange)
      (response : Http.Response)
      (waiting : exchange ∈ books.exchanges)
      (idle : exchange.errand.job? = none) :
      Entry books [] (books.reply exchange.ticket response)
  | listen
      (exchange : Exchange)
      (inquiry : Inquiry)
      (waiting : exchange ∈ books.exchanges)
      (idle : exchange.errand.job? = none) :
      Entry books [] (books.reassign exchange.ticket (.listen inquiry))
  | leave
      (ticket : Nat) :
      Entry books [] (books.dismiss ticket)
  | enqueue
      (exchange : Exchange)
      (job : Job)
      (waiting : exchange ∈ books.exchanges)
      (submits : exchange.errand = .submit job) :
      Entry books [.enqueue ⟨exchange.ticket, job⟩]
        ({ books with queue := books.queue ++ [Submission.mk exchange.ticket job] }.reassign
          exchange.ticket (.collect job))
  | take
      (index : Nat)
      (submission : Submission)
      (rest : List Submission)
      (idle : books.seats[index]? = some ⟨.compile, .idle⟩)
      (next : books.queue = submission :: rest) :
      Entry books [.take index submission]
        ({ books with queue := rest }.occupy index
          (.busy submission.ticket (.begin books.settings submission.job)))
  | discard
      (index : Nat)
      (submission : Submission)
      (rest : List Submission)
      (idle : books.seats[index]? = some ⟨.discard, .idle⟩)
      (next : books.queue = submission :: rest) :
      Entry books []
        ({ books with queue := rest }.deliver submission.ticket .nothing)
  | compile
      (index ticket : Nat)
      (duty : Duty)
      (compilation : Compilation)
      (machine : Machine)
      (stepped : Stepped)
      (busy : books.seats[index]? = some ⟨duty, .busy ticket compilation⟩)
      (step : compilation.step books.host machine = some stepped) :
      Entry books [.compile index ⟨ticket, compilation.job⟩ machine]
        (books.occupy index (.busy ticket stepped.compilation))
  | finish
      (index ticket : Nat)
      (duty : Duty)
      (compilation : Compilation)
      (outcome : Outcome)
      (busy : books.seats[index]? = some ⟨duty, .busy ticket compilation⟩)
      (ended : compilation.outcome? = some outcome) :
      Entry books [.finish index ⟨ticket, compilation.job⟩ outcome]
        ((books.occupy index .idle).deliver ticket (.report (Worker.report outcome)))
  | stop
      (index : Nat)
      (duty : Duty)
      (idle : books.seats[index]? = some ⟨duty, .idle⟩)
      (drained : books.queue = [])
      (deserted : books.hasSender = false) :
      Entry books [] (books.occupy index .stopped)
  | close :
      Entry books [] { books with isOpen := false }

end Books

theorem Http.Request.IsSource.route
    {request : Http.Request}
    (source : request.IsSource) :
    Route.ofPath? request.path = some .compile := by
  rw [source.1]
  decide

theorem Route.path_of_ofPath?
    {path : String}
    {route : Route}
    (found : Route.ofPath? path = some route) :
    path = route.path := by
  have same := List.find?_some found
  exact (eq_of_beq same).symm

theorem Route.takes_compile_iff (method : String) :
    Route.takes .compile method = true ↔ method = "POST" := by
  simp [Route.takes, Route.methods?]

namespace Service

/-- What a service holds of requests and jobs. -/
def books (service : Service) : Books where
  host := service.host
  settings := service.settings
  isOpen := service.isOpen
  queue := service.queue
  seats := service.seats
  deliveries := service.deliveries
  exchanges := service.exchanges
  replies := service.replies
  fresh := service.fresh
  names := service.names

@[simp] theorem books_log (service : Service) (events : List LogEvent) :
    (service.log events).books = service.books :=
  rfl

@[simp] theorem books_enlist (service : Service) (exchange : Exchange) :
    (service.enlist exchange).books =
      { service.books with exchanges := service.books.exchanges ++ [exchange] } :=
  rfl

@[simp] theorem books_occupy (service : Service) (index : Nat) (occupation : Occupation) :
    (service.occupy index occupation).books = service.books.occupy index occupation :=
  rfl

@[simp] theorem books_send
    (service : Service)
    (ticket : Nat)
    (request : Http.Request)
    (answer : Endpoint.Answer) :
    (service.send ticket request answer).books =
      service.books.reply ticket (Route.complete request answer.response) :=
  rfl

/-- The queue has a sender as long as someone holds a handle on it. -/
@[simp] theorem books_hasSender (service : Service) :
    service.books.hasSender = service.hasSender := by
  unfold hasSender holders Books.hasSender books
  cases service.isOpen <;> cases service.exchanges <;> rfl

@[simp] theorem books_exchange? (service : Service) (ticket : Nat) :
    service.books.exchange? ticket = service.exchange? ticket :=
  rfl

@[simp] theorem books_deliver (service : Service) (ticket : Nat) (delivery : Delivery) :
    (service.deliver ticket delivery).books = service.books.deliver ticket delivery := by
  unfold deliver Books.deliver
  rw [books_exchange?]
  by_cases waits : (service.exchange? ticket).isSome = true
  · rw [if_pos waits, if_pos waits]
    rfl
  · rw [if_neg waits, if_neg waits]

theorem mem_of_exchange?
    {service : Service}
    {ticket : Nat}
    {exchange : Exchange}
    (found : service.exchange? ticket = some exchange) :
    exchange ∈ service.exchanges ∧ exchange.ticket = ticket :=
  ⟨List.mem_of_find?_eq_some found, by simpa using List.find?_some found⟩

section Arrival

variable
  {books : Books}
  {service : Service}
  {request : Http.Request}

/-- A request that is answered at once is entered as such. -/
private theorem entry_send
    (arrived : service.books = { books with fresh := books.fresh + 1 })
    (isOpen : books.isOpen = true)
    (answer : Endpoint.Answer)
    (refused : request.IsSource →
      ∃ refusal : Refusal,
        Route.complete request answer.response = Route.complete request refusal.response) :
    Books.Entry books [.receive request]
      (service.send books.fresh request answer).books := by
  rw [books_send, arrived]
  exact .respond request _ isOpen refused

/-- A source that is let through is put on the list, any other method is refused. -/
private theorem entry_receiveSource
    (arrived : service.books = { books with fresh := books.fresh + 1 })
    (isOpen : books.isOpen = true)
    (leads : Route.ofPath? request.path = some .compile) :
    Books.Entry books [.receive request]
      (service.receiveSource books.fresh request).books := by
  unfold receiveSource
  split
  next taken =>
    have source : request.IsSource :=
      ⟨Route.path_of_ofPath? leads, (Route.takes_compile_iff _).1 taken⟩
    have entered :=
      Books.Entry.enlist request (.submit (jobOf books.names books.fresh request)) isOpen
        (.inr ⟨rfl, source⟩)
    have drawn : service.names = books.names :=
      congrArg Books.names arrived
    rw [books_log, books_enlist, arrived, drawn]
    exact entered
  next taken =>
    apply entry_send arrived isOpen
    intro source
    exact absurd ((Route.takes_compile_iff _).2 source.2) taken

/-- A request on the route that compiles is let through or refused for its client's sake. -/
private theorem entry_receiveLimited
    (arrived : service.books = { books with fresh := books.fresh + 1 })
    (isOpen : books.isOpen = true)
    (leads : Route.ofPath? request.path = some .compile) :
    Books.Entry books [.receive request]
      (service.receiveLimited books.fresh request).books := by
  unfold receiveLimited
  split
  · exact entry_receiveSource arrived isOpen leads
  next limit _ =>
    split
    · exact entry_receiveSource arrived isOpen leads
    next refusal _ =>
      exact entry_send arrived isOpen _ fun _ => ⟨refusal, rfl⟩

/-- A request on another route is answered at once, or asks for the version. -/
private theorem entry_receiveOn
    (arrived : service.books = { books with fresh := books.fresh + 1 })
    (isOpen : books.isOpen = true)
    (route : Route)
    (leads : Route.ofPath? request.path = some route)
    (other : route ≠ .compile) :
    Books.Entry books [.receive request]
      (service.receiveOn books.fresh request route).books := by
  have noSource : ¬request.IsSource := by
    intro source
    rw [source.route, Option.some.injEq] at leads
    exact other leads.symm
  cases route with
  | compile =>
      exact absurd rfl other
  | version =>
      rw [receiveOn, books_enlist, arrived]
      exact .enlist request .inquire isOpen (.inl ⟨rfl, noSource⟩)
  | page | icon | titles | extension =>
      exact entry_send arrived isOpen _ fun source => absurd source noSource

/-- A request that comes in is entered under the next ticket. -/
private theorem entry_receive (service : Service) (isOpen : service.isOpen = true) :
    Books.Entry service.books [.receive request]
      (service.receive request).books := by
  have arrived :
      ({ service with fresh := service.fresh + 1 } : Service).books =
        { service.books with fresh := service.books.fresh + 1 } :=
    rfl
  change Books.Entry service.books [.receive request]
    (({ service with fresh := service.fresh + 1 } : Service).receiveAs
      service.books.fresh request).books
  unfold receiveAs
  split
  next asks =>
    apply entry_send arrived isOpen
    intro source
    simp [Http.Sharing.isAsking, Http.Sharing.askingMethod, source.2] at asks
  next asks =>
    split
    next nowhere =>
      apply entry_send arrived isOpen
      intro source
      rw [source.route] at nowhere
      cases nowhere
    next leads =>
      exact entry_receiveLimited arrived isOpen leads
    next route other leads =>
      split
      · exact entry_receiveOn arrived isOpen route leads other
      · apply entry_send arrived isOpen
        intro source
        rw [source.route, Option.some.injEq] at leads
        exact absurd leads.symm other

end Arrival

/-- What is done for a request that waits is entered as such. -/
private theorem entry_attend
    {service next : Service}
    {ticket : Nat}
    (made : service.attend? ticket = some next) :
    Books.Entry service.books (service.deeds (.attend ticket)) next.books := by
  unfold attend? at made
  unfold deeds
  cases found : service.exchange? ticket with
  | none =>
      simp [found] at made
  | some exchange =>
      obtain ⟨waiting, rfl⟩ := mem_of_exchange? found
      obtain ⟨ticket, request, errand⟩ := exchange
      cases errand with
      | submit job =>
          simp only [found, submit, Option.some.injEq] at made
          subst made
          by_cases received : service.hasReceiver = true
          · simp only [found, received, if_true]
            exact .enqueue ⟨ticket, request, .submit job⟩ job waiting rfl
          · simp only [found, received, if_false, Bool.false_eq_true]
            have deserted : service.books.hasReceiver = false :=
              Bool.eq_false_iff.2 received
            exact .reject ⟨ticket, request, .submit job⟩ _ waiting deserted
      | collect job =>
          simp only [found, collect?, Option.map_eq_some_iff] at made ⊢
          obtain ⟨delivery, delivered, rfl⟩ := made
          have listed : (ticket, delivery) ∈ service.deliveries := by
            obtain ⟨before, after, shape, _⟩ := List.lookup_eq_some_iff.1 delivered
            rw [shape]
            simp
          cases delivery with
          | report report =>
              exact .collect ⟨ticket, request, .collect job⟩ (.report report) _ waiting listed
                fun _ same => by cases same; rfl
          | nothing =>
              exact .collect ⟨ticket, request, .collect job⟩ .nothing _ waiting listed
                fun _ same => by cases same
      | inquire =>
          simp only [found, inquire?] at made ⊢
          split at made
          next version _ =>
            simp only [Option.some.injEq] at made
            subst made
            exact .tell ⟨ticket, request, .inquire⟩ _ waiting rfl
          next =>
            cases made
          next =>
            split at made
            next inquiry machine _ =>
              simp only [Option.some.injEq] at made
              subst made
              exact .listen ⟨ticket, request, .inquire⟩ inquiry waiting rfl
            next cause _ =>
              simp only [Option.some.injEq] at made
              subst made
              exact .tell ⟨ticket, request, .inquire⟩ _ waiting rfl
      | listen inquiry =>
          simp only [found, listen?] at made ⊢
          split at made
          next heard machine _ =>
            simp only [Option.some.injEq] at made
            subst made
            exact .listen ⟨ticket, request, .listen inquiry⟩ heard waiting rfl
          next =>
            rw [Option.map_eq_some_iff] at made
            obtain ⟨status, _, rfl⟩ := made
            unfold conclude
            split
            · exact .tell ⟨ticket, request, .listen inquiry⟩ _ waiting rfl
            · exact .tell ⟨ticket, request, .listen inquiry⟩ _ waiting rfl

/-- A client that goes away is taken off the list. -/
private theorem entry_leave
    {service next : Service}
    {ticket : Nat}
    (made : service.leave? ticket = some next) :
    Books.Entry service.books (service.deeds (.leave ticket)) next.books := by
  unfold leave? at made
  rw [Option.map_eq_some_iff] at made
  obtain ⟨exchange, _, rfl⟩ := made
  unfold giveUp
  split <;> exact .leave ticket

/-- What a worker does is entered as such. -/
private theorem entry_work
    {service next : Service}
    {index : Nat}
    (made : service.work? index = some next) :
    Books.Entry service.books (service.deeds (.work index)) next.books := by
  unfold work? at made
  unfold deeds
  cases found : service.seats[index]? with
  | none =>
      simp [found] at made
  | some seat =>
      obtain ⟨duty, occupation⟩ := seat
      have placed : service.books.seats[index]? = some ⟨duty, occupation⟩ := found
      cases occupation with
      | stopped =>
          simp [found] at made
      | idle =>
          simp only [found] at made ⊢
          cases queued : service.queue with
          | nil =>
              simp only [queued] at made
              split at made
              · cases made
              next deserted =>
                simp only [Option.some.injEq] at made
                subst made
                rw [← books_hasSender] at deserted
                have entered :=
                  Books.Entry.stop index duty placed queued (Bool.eq_false_iff.2 deserted)
                cases duty <;> exact entered
          | cons submission rest =>
              simp only [queued, Option.some.injEq] at made
              subst made
              cases duty with
              | compile =>
                  exact .take index submission rest placed queued
              | discard =>
                  simp only [take, books_deliver]
                  exact .discard index submission rest placed queued
      | busy ticket compilation =>
          simp only [found, compile?] at made ⊢
          cases ended : compilation.outcome? with
          | some outcome =>
              simp only [ended, Option.some.injEq] at made
              subst made
              simp only [finish, books_log, books_deliver, books_occupy]
              cases duty <;> exact .finish index ticket _ compilation outcome placed ended
          | none =>
              simp only [ended, Option.map_eq_some_iff] at made
              obtain ⟨stepped, step, rfl⟩ := made
              cases duty <;>
                exact .compile index ticket _ compilation service.machine stepped placed step

/-- Every move changes the books in one of the ways that are listed. -/
theorem entry_of_step?
    {service next : Service}
    {move : Move}
    (made : service.step? move = some next) :
    Books.Entry service.books (service.deeds move) next.books := by
  cases move with
  | receive request =>
      simp only [step?, Option.ite_none_right_eq_some, Option.some.injEq] at made
      obtain ⟨isOpen, rfl⟩ := made
      exact entry_receive service isOpen
  | attend ticket =>
      exact entry_attend made
  | leave ticket =>
      exact entry_leave made
  | work index =>
      exact entry_work made
  | run process =>
      simp only [step?, Option.map_eq_some_iff] at made
      obtain ⟨machine, _, rfl⟩ := made
      exact .nothing
  | wait moment =>
      simp only [step?, Option.some.injEq] at made
      subst made
      exact .nothing
  | close =>
      simp only [step?, Option.ite_none_right_eq_some, Option.some.injEq] at made
      obtain ⟨_, rfl⟩ := made
      exact .close

end Service

end CompilePlayground
