import CompilePlayground.Proofs.Service.Books

namespace CompilePlayground.Books

open Posix

/-!
# Laws of the books

The laws say how the books of a service agree with the deeds of its run: every request waits
under its own ticket, the queue holds what was put into it and not taken off, every worker
holds a job that it took and is not done with, and what is delivered is what a worker came to.
Each law is kept by every entry, some with the help of others, so that all of them together
hold at every moment.
-/

/-- A worker is at a job. -/
def Holds (books : Books) (index : Nat) (submission : Submission) : Prop :=
  ∃ duty compilation,
    books.seats[index]? = some ⟨duty, .busy submission.ticket compilation⟩ ∧
      compilation.job = submission.job

section Lists

variable {books : Books}

@[simp] theorem reassign_tickets (books : Books) (ticket : Nat) (errand : Errand) :
    (books.reassign ticket errand).exchanges.map Exchange.ticket =
      books.exchanges.map Exchange.ticket := by
  unfold reassign
  rw [List.map_map]
  apply List.map_congr_left
  intro exchange _
  simp only [Function.comp_apply]
  split <;> rfl

/-- A request whose errand is set is one that waited before. -/
theorem of_mem_reassign
    {ticket : Nat}
    {errand : Errand}
    {exchange : Exchange}
    (member : exchange ∈ (books.reassign ticket errand).exchanges) :
    exchange.ticket ≠ ticket ∧ exchange ∈ books.exchanges ∨
      exchange.ticket = ticket ∧ exchange.errand = errand ∧
        ∃ before ∈ books.exchanges,
          before.ticket = exchange.ticket ∧ before.request = exchange.request := by
  obtain ⟨before, listed, rfl⟩ := List.mem_map.1 member
  by_cases same : before.ticket = ticket
  · right
    rw [if_pos same]
    exact ⟨same, rfl, before, listed, rfl, rfl⟩
  · left
    rw [if_neg same]
    exact ⟨same, listed⟩

theorem mem_dismiss
    {ticket : Nat}
    {exchange : Exchange} :
    exchange ∈ (books.dismiss ticket).exchanges ↔
      exchange ∈ books.exchanges ∧ exchange.ticket ≠ ticket := by
  simp [dismiss]

/-- The place of a worker after one of them has turned to something else. -/
theorem seat_occupy
    {index other : Nat}
    {occupation : Occupation}
    {seat : Seat}
    (found : (books.occupy index occupation).seats[other]? = some seat) :
    other ≠ index ∧ books.seats[other]? = some seat ∨
      other = index ∧ seat.occupation = occupation ∧
        ∃ before, books.seats[index]? = some before ∧ before.duty = seat.duty := by
  simp only [occupy, List.getElem?_modify] at found
  by_cases same : index = other
  · subst same
    simp only [if_true] at found
    cases before : books.seats[index]? with
    | none =>
        simp [before] at found
    | some seat =>
        simp only [before, Option.map_eq_map, Option.map_some, Option.some.injEq] at found
        subst found
        exact .inr ⟨rfl, rfl, seat, rfl, rfl⟩
  · simp only [same, if_false, Option.map_eq_map, Option.map_id_fun', id_eq] at found
    exact .inl ⟨Ne.symm same, found⟩

/-- Delivering changes nothing but the deliveries. -/
theorem deliver_eq (books : Books) (ticket : Nat) (delivery : Delivery) :
    ∃ deliveries, books.deliver ticket delivery = { books with deliveries } := by
  unfold deliver
  split <;> exact ⟨_, rfl⟩

/-- What is delivered is there if its client waits. -/
theorem of_mem_deliver
    {ticket : Nat}
    {delivery : Delivery}
    {entry : Nat × Delivery}
    (member : entry ∈ (books.deliver ticket delivery).deliveries) :
    entry ∈ books.deliveries ∨
      entry = (ticket, delivery) ∧ ∃ exchange ∈ books.exchanges, exchange.ticket = ticket := by
  unfold deliver at member
  split at member
  next waits =>
    rcases List.mem_append.1 member with earlier | added
    · exact .inl earlier
    · right
      rw [List.mem_singleton] at added
      refine ⟨added, ?_⟩
      obtain ⟨exchange, found⟩ := Option.isSome_iff_exists.1 waits
      exact ⟨exchange, List.mem_of_find?_eq_some found, by simpa using List.find?_some found⟩
  next =>
    exact .inl member

end Lists

/-- Every request that waits has a ticket of its own, which is its place among those that came
in. What is to be done for a source is about the job of its ticket, and for nothing else is it
about a job. -/
structure Registered (deeds : Deeds) (books : Books) : Prop where
  fresh : books.fresh = deeds.received.length
  distinct : (books.exchanges.map Exchange.ticket).Nodup
  known : ∀ exchange ∈ books.exchanges,
    deeds.received[exchange.ticket]? = some exchange.request
  sources : ∀ exchange ∈ books.exchanges, ∀ job, exchange.errand.job? = some job →
    exchange.request.IsSource ∧
      job = Service.jobOf books.names exchange.ticket exchange.request
  others : ∀ exchange ∈ books.exchanges, exchange.errand.job? = none →
    ¬exchange.request.IsSource

/-- The jobs that were put into the queue are those that were taken off it, followed by those
that are still there. Each was put there once, as the job of a source that came in. -/
structure Queued (deeds : Deeds) (books : Books) : Prop where
  order : deeds.enqueued = deeds.taken.map Prod.snd ++ books.queue
  distinct : (deeds.enqueued.map Submission.ticket).Nodup
  known : ∀ submission ∈ deeds.enqueued, ∃ request,
    deeds.received[submission.ticket]? = some request ∧ request.IsSource ∧
      submission.job = Service.jobOf books.names submission.ticket request
  unsent : ∀ exchange ∈ books.exchanges, ∀ job, exchange.errand = .submit job →
    ∀ submission ∈ deeds.enqueued, submission.ticket ≠ exchange.ticket
  sent : ∀ exchange ∈ books.exchanges, ∀ job, exchange.errand = .collect job →
    Submission.mk exchange.ticket job ∈ deeds.enqueued

/-- The jobs that workers took are those that they hold and those that they are done with, and
what each job has come to was reached from its beginning on the machines of its steps. -/
structure Worked (deeds : Deeds) (books : Books) : Prop where
  held : ∀ index submission, books.Holds index submission →
    (index, submission) ∈ deeds.taken ∧
      ∀ entry ∈ deeds.finished, entry.2.ticket ≠ submission.ticket
  placed : ∀ index submission, (index, submission) ∈ deeds.taken →
    books.Holds index submission ∨ (index, submission) ∈ deeds.finished
  finished : ∀ entry ∈ deeds.finished, entry ∈ deeds.taken
  once : (deeds.finished.map fun entry => entry.2.ticket).Nodup
  begun : ∀ index submission machine, Deed.compile index submission machine ∈ deeds →
    (index, submission) ∈ deeds.taken
  followed : ∀ (index : Nat) (duty : Duty) (ticket : Nat) (compilation : Compilation),
    books.seats[index]? = some ⟨duty, .busy ticket compilation⟩ →
      (Compilation.begin books.settings compilation.job).follow books.host
        (deeds.machinesFor ticket) = some compilation
  ended : ∀ index submission outcome, Deed.finish index submission outcome ∈ deeds →
    ∃ compilation,
      (Compilation.begin books.settings submission.job).follow books.host
        (deeds.machinesFor submission.ticket) = some compilation ∧
      compilation.outcome? = some outcome

/-- What waits to be collected is what a worker came to, once for each request that waits. -/
structure Delivered (deeds : Deeds) (books : Books) : Prop where
  reports : ∀ entry ∈ books.deliveries, ∃ index submission outcome,
    Deed.finish index submission outcome ∈ deeds ∧ submission.ticket = entry.1 ∧
      entry.2 = .report (Worker.report outcome)
  distinct : (books.deliveries.map Prod.fst).Nodup
  awaited : ∀ entry ∈ books.deliveries, ∃ exchange ∈ books.exchanges,
    exchange.ticket = entry.1
  complete : ∀ index submission outcome, Deed.finish index submission outcome ∈ deeds →
    ∀ exchange ∈ books.exchanges, exchange.ticket = submission.ticket →
      (submission.ticket, .report (Worker.report outcome)) ∈ books.deliveries

/-- There are workers, all of them compile, and one has stopped only if there is nothing left
to do and nobody is left who could bring more. -/
structure Staffed (books : Books) : Prop where
  some : books.seats ≠ []
  duty : ∀ seat ∈ books.seats, seat.duty = .compile
  stopped : ∀ seat ∈ books.seats, seat.occupation = .stopped →
    books.hasSender = false ∧ books.queue = []

/-- How a source has been answered: with what a worker came to, or with a refusal that has its
reason in the client. -/
inductive Answered
    (deeds : Deeds)
    (ticket : Nat)
    (request : Http.Request)
    (response : Http.Response) : Prop where
  | report
      (index : Nat)
      (submission : Submission)
      (outcome : Outcome)
      (finished : Deed.finish index submission outcome ∈ deeds)
      (own : submission.ticket = ticket)
      (rendered : response =
        Route.complete request (.plain 200 (Worker.report outcome).render))
  | refusal
      (refusal : Refusal)
      (refused : response = Route.complete request refusal.response)

/-- Every response that was sent answers a request that came in. -/
def Replied (deeds : Deeds) (books : Books) : Prop :=
  ∀ reply ∈ books.replies, ∃ request,
    deeds.received[reply.ticket]? = some request ∧
      (request.IsSource → Answered deeds reply.ticket request reply.response)

/-- All laws of the books. -/
structure Kept (deeds : Deeds) (books : Books) : Prop where
  registered : Registered deeds books
  queued : Queued deeds books
  worked : Worked deeds books
  delivered : Delivered deeds books
  staffed : Staffed books
  replied : Replied deeds books

end CompilePlayground.Books
