import CompilePlayground.Proofs.Service.ExactlyOnce

namespace CompilePlayground

/-!
# What an entry leaves in the books

Unless a request comes in, an entry only lets requests go or changes what is to be done for them.
A source that waits is told what a worker has come to with its job, and nothing else.
-/

namespace Books

/-- A source is told what a worker has come to with its job. -/
def Reported
    (deeds : Deeds)
    (ticket : Nat)
    (request : Http.Request)
    (response : Http.Response) :
    Prop :=
  ∃ index submission outcome, Deed.finish index submission outcome ∈ deeds ∧
    submission.ticket = ticket ∧
    response = Route.complete request (.plain 200 (Worker.report outcome).render)

theorem Reported.status
    {deeds : Deeds}
    {ticket : Nat}
    {request : Http.Request}
    {response : Http.Response}
    (reported : Reported deeds ticket request response)
    (source : request.IsSource) :
    response.status = 200 := by
  obtain ⟨_, _, _, _, _, shape⟩ := reported
  rw [shape, Route.status_complete source]
  rfl

theorem Reported.mono
    {deeds : Deeds}
    {ticket : Nat}
    {request : Http.Request}
    {response : Http.Response}
    (reported : Reported deeds ticket request response)
    (more : Deeds) :
    Reported (deeds ++ more) ticket request response := by
  obtain ⟨index, submission, outcome, finished, own, shape⟩ := reported
  exact ⟨index, submission, outcome, List.mem_append_left _ finished, own, shape⟩

variable {deeds more : Deeds} {books next : Books}

theorem Entry.waited
    (entry : Entry books more next)
    (none : more.received = [])
    {exchange : Exchange}
    (waits : exchange ∈ next.exchanges) :
    ∃ before ∈ books.exchanges,
      before.ticket = exchange.ticket ∧ before.request = exchange.request := by
  have same (before : exchange ∈ books.exchanges) :
      ∃ before ∈ books.exchanges,
        before.ticket = exchange.ticket ∧ before.request = exchange.request :=
    ⟨exchange, before, rfl, rfl⟩
  have assigned {ticket : Nat} {errand : Errand}
      (waits : exchange ∈ (books.reassign ticket errand).exchanges) :
      ∃ before ∈ books.exchanges,
        before.ticket = exchange.ticket ∧ before.request = exchange.request := by
    rcases of_mem_reassign waits with ⟨_, before⟩ | ⟨_, _, before⟩
    · exact same before
    · exact before
  cases entry with
  | respond | enlist =>
      cases none
  | reject | collect | tell | leave =>
      exact same (List.mem_of_mem_filter waits)
  | listen | enqueue =>
      exact assigned waits
  | discard index submission rest idle first =>
      obtain ⟨_, shape⟩ := deliver_eq { books with queue := rest } submission.ticket .nothing
      rw [shape] at waits
      exact same waits
  | finish index ticket duty compilation outcome busy ended =>
      obtain ⟨_, shape⟩ := deliver_eq (books.occupy index .idle) ticket
        (.report (Worker.report outcome))
      rw [shape] at waits
      exact same waits
  | nothing | take | compile | stop | close =>
      exact same waits

/-- Whoever waits after an entry waited before, or has just come in while the router was open. -/
theorem Entry.waited_or_arrived
    (entry : Entry books more next)
    {exchange : Exchange}
    (waits : exchange ∈ next.exchanges) :
    (∃ before ∈ books.exchanges, before.ticket = exchange.ticket) ∨
      exchange.ticket = books.fresh ∧ books.isOpen = true := by
  by_cases none : more.received = []
  · obtain ⟨before, listed, same, _⟩ := entry.waited none waits
    exact .inl ⟨before, listed, same⟩
  · cases entry with
    | respond request response isOpen refused =>
        exact .inl ⟨exchange, List.mem_of_mem_filter waits, rfl⟩
    | enlist request errand isOpen known =>
        rcases List.mem_append.1 waits with before | now
        · exact .inl ⟨exchange, before, rfl⟩
        · cases List.mem_singleton.1 now
          exact .inr ⟨rfl, isOpen⟩
    | _ =>
        exact absurd rfl none

/-- A router that was closed does not open again. -/
theorem Entry.wasOpen
    (entry : Entry books more next)
    (isOpen : next.isOpen = true) :
    books.isOpen = true := by
  cases entry with
  | discard index submission rest idle first =>
      obtain ⟨_, shape⟩ := deliver_eq { books with queue := rest } submission.ticket .nothing
      rw [shape] at isOpen
      exact isOpen
  | finish index ticket duty compilation outcome busy ended =>
      obtain ⟨_, shape⟩ := deliver_eq (books.occupy index .idle) ticket
        (.report (Worker.report outcome))
      rw [shape] at isOpen
      exact isOpen
  | close =>
      cases isOpen
  | _ =>
      exact isOpen

theorem Entry.enqueued
    (entry : Entry books more next)
    {submission : Submission}
    (put : submission ∈ more.enqueued) :
    ∃ exchange ∈ books.exchanges,
      exchange.ticket = submission.ticket ∧ exchange.errand = .submit submission.job := by
  cases entry with
  | enqueue exchange job waiting submits =>
      rw [Deeds.enqueued_singleton, Deed.enqueued?, Option.toList_some,
        List.mem_singleton] at put
      subst put
      exact ⟨exchange, waiting, rfl, submits⟩
  | _ =>
      cases put

/-- What is sent later than at once answers a request that waits, and a source is then told what
a worker has come to. -/
theorem Kept.replied_of_entry
    (laws : Kept deeds books)
    (entry : Entry books more next)
    (none : more.received = [])
    {reply : Reply}
    (sent : reply ∈ next.replies) :
    reply ∈ books.replies ∨
      ∃ exchange ∈ books.exchanges, exchange.ticket = reply.ticket ∧
        (exchange.request.IsSource →
          Reported deeds reply.ticket exchange.request reply.response) := by
  have parts {ticket : Nat} {response : Http.Response}
      (sent : reply ∈ books.replies ++ [⟨ticket, response⟩]) :
      reply ∈ books.replies ∨ reply = ⟨ticket, response⟩ := by
    simpa using sent
  cases entry with
  | respond | enlist =>
      cases none
  | reject exchange response waiting deserted =>
      rw [laws.staffed.hasReceiver (Staffed.sender_of_mem waiting)] at deserted
      cases deserted
  | collect exchange delivery response waiting delivered told =>
      rcases parts sent with before | rfl
      · exact .inl before
      · refine .inr ⟨exchange, waiting, rfl, ?_⟩
        intro source
        obtain ⟨index, submission, outcome, finished, own, report⟩ :=
          laws.delivered.reports _ delivered
        exact ⟨index, submission, outcome, finished, own, told _ report⟩
  | tell exchange response waiting idle =>
      rcases parts sent with before | rfl
      · exact .inl before
      · refine .inr ⟨exchange, waiting, rfl, ?_⟩
        intro source
        exact absurd source (laws.registered.others exchange waiting idle)
  | discard index submission rest idle first =>
      obtain ⟨_, shape⟩ := deliver_eq { books with queue := rest } submission.ticket .nothing
      rw [shape] at sent
      exact .inl sent
  | finish index ticket duty compilation outcome busy ended =>
      obtain ⟨_, shape⟩ := deliver_eq (books.occupy index .idle) ticket
        (.report (Worker.report outcome))
      rw [shape] at sent
      exact .inl sent
  | nothing | listen | leave | enqueue | take | compile | stop | close =>
      exact .inl sent

theorem Entry.keepsReplies
    (entry : Entry books more next)
    {reply : Reply}
    (sent : reply ∈ books.replies) :
    reply ∈ next.replies := by
  cases entry with
  | respond | reject | collect | tell =>
      exact List.mem_append_left _ sent
  | discard index submission rest idle first =>
      obtain ⟨_, shape⟩ := deliver_eq { books with queue := rest } submission.ticket .nothing
      rw [shape]
      exact sent
  | finish index ticket duty compilation outcome busy ended =>
      obtain ⟨_, shape⟩ := deliver_eq (books.occupy index .idle) ticket
        (.report (Worker.report outcome))
      rw [shape]
      exact sent
  | nothing | enlist | listen | leave | enqueue | take | compile | stop | close =>
      exact sent

end Books

end CompilePlayground
