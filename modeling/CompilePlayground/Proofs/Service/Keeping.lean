import CompilePlayground.Proofs.Service.Laws
import Mathlib.Data.List.Nodup

namespace CompilePlayground

open Posix

/-!
# The laws are kept

Each law of the books holds after an entry when all laws held before it. The proofs go through
the list of entries; most entries leave alone what a law is about.
-/

namespace Deeds

/-- A request keeps its ticket when more happens. -/
theorem received_grows
    {deeds : Deeds}
    {ticket : Nat}
    {request : Http.Request}
    (known : deeds.received[ticket]? = some request)
    (more : Deeds) :
    (deeds ++ more).received[ticket]? = some request := by
  have within : ticket < deeds.received.length :=
    (List.getElem?_eq_some_iff.1 known).1
  rw [received_append, List.getElem?_append_left within, known]

end Deeds

namespace Books

variable {deeds more : Deeds} {books next : Books}

namespace Registered

/-- Two requests that wait under one ticket are the same. -/
theorem unique
    (law : Registered deeds books)
    {first second : Exchange}
    (firstWaits : first ∈ books.exchanges)
    (secondWaits : second ∈ books.exchanges)
    (same : first.ticket = second.ticket) :
    first = second :=
  List.inj_on_of_nodup_map law.distinct firstWaits secondWaits same

theorem lt_fresh
    (law : Registered deeds books)
    {exchange : Exchange}
    (waits : exchange ∈ books.exchanges) :
    exchange.ticket < books.fresh := by
  rw [law.fresh]
  exact (List.getElem?_eq_some_iff.1 (law.known exchange waits)).1

/-- The law stays when no request comes in and none is added to those that wait. -/
theorem shrink
    (law : Registered deeds books)
    (received : (deeds ++ more).received = deeds.received)
    (fresh : next.fresh = books.fresh)
    (names : next.names = books.names)
    (fewer : next.exchanges.Sublist books.exchanges) :
    Registered (deeds ++ more) next where
  fresh := by
    rw [fresh, received]
    exact law.fresh
  distinct :=
    law.distinct.sublist (fewer.map _)
  known exchange waits := by
    rw [received]
    exact law.known exchange (fewer.subset waits)
  sources exchange waits := by
    rw [names]
    exact law.sources exchange (fewer.subset waits)
  others exchange waits :=
    law.others exchange (fewer.subset waits)

/-- The law stays when a request comes in that does not have to wait. -/
theorem arrive
    (law : Registered deeds books)
    (request : Http.Request)
    (fresh : next.fresh = books.fresh + 1)
    (names : next.names = books.names)
    (fewer : next.exchanges.Sublist books.exchanges) :
    Registered (deeds ++ [.receive request]) next where
  fresh := by
    simp [fresh, law.fresh]
  distinct :=
    law.distinct.sublist (fewer.map _)
  known exchange waits :=
    Deeds.received_grows (law.known exchange (fewer.subset waits)) _
  sources exchange waits := by
    rw [names]
    exact law.sources exchange (fewer.subset waits)
  others exchange waits :=
    law.others exchange (fewer.subset waits)

/-- The law stays when a request comes in and waits under the next ticket. -/
theorem enlist
    (law : Registered deeds books)
    (request : Http.Request)
    (errand : Errand)
    (source : ∀ job, errand.job? = some job →
      request.IsSource ∧ job = Service.jobOf books.names books.fresh request)
    (other : errand.job? = none → ¬request.IsSource) :
    Registered (deeds ++ [.receive request])
      { books with
        fresh := books.fresh + 1,
        exchanges := books.exchanges ++ [⟨books.fresh, request, errand⟩] } where
  fresh := by
    simp [law.fresh]
  distinct := by
    rw [List.map_append, List.nodup_append]
    refine ⟨law.distinct, List.nodup_singleton _, ?_⟩
    intro earlier listed added member
    obtain ⟨exchange, waits, rfl⟩ := List.mem_map.1 listed
    rw [List.map_singleton, List.mem_singleton] at member
    subst member
    exact Nat.ne_of_lt (law.lt_fresh waits)
  known exchange waits := by
    rcases List.mem_append.1 waits with earlier | added
    · exact Deeds.received_grows (law.known exchange earlier) _
    · rw [List.mem_singleton] at added
      subst added
      simp [law.fresh]
  sources exchange waits job about := by
    rcases List.mem_append.1 waits with earlier | added
    · exact law.sources exchange earlier job about
    · rw [List.mem_singleton] at added
      subst added
      exact source job about
  others exchange waits idle := by
    rcases List.mem_append.1 waits with earlier | added
    · exact law.others exchange earlier idle
    · rw [List.mem_singleton] at added
      subst added
      exact other idle

/-- The law stays when the errand of a request is set to another about the same job. -/
theorem reassign
    (law : Registered deeds books)
    (received : (deeds ++ more).received = deeds.received)
    (ticket : Nat)
    (errand : Errand)
    (about : ∀ exchange ∈ books.exchanges, exchange.ticket = ticket →
      exchange.errand.job? = errand.job?)
    (fresh : next.fresh = books.fresh)
    (names : next.names = books.names)
    (exchanges : next.exchanges = (books.reassign ticket errand).exchanges) :
    Registered (deeds ++ more) next where
  fresh := by
    rw [fresh, received]
    exact law.fresh
  distinct := by
    rw [exchanges, reassign_tickets]
    exact law.distinct
  known exchange waits := by
    rw [exchanges] at waits
    rw [received]
    rcases of_mem_reassign waits with
      ⟨_, before⟩ | ⟨_, _, before, listed, sameTicket, sameRequest⟩
    · exact law.known exchange before
    · rw [← sameTicket, ← sameRequest]
      exact law.known before listed
  sources exchange waits job isAbout := by
    rw [exchanges] at waits
    rw [names]
    rcases of_mem_reassign waits with
      ⟨_, before⟩ | ⟨here, assigned, before, listed, sameTicket, sameRequest⟩
    · exact law.sources exchange before job isAbout
    · rw [← sameTicket, ← sameRequest]
      rw [assigned, ← about before listed (sameTicket.trans here)] at isAbout
      exact law.sources before listed job isAbout
  others exchange waits idle := by
    rw [exchanges] at waits
    rcases of_mem_reassign waits with
      ⟨_, before⟩ | ⟨here, assigned, before, listed, sameTicket, sameRequest⟩
    · exact law.others exchange before idle
    · rw [← sameRequest]
      rw [assigned, ← about before listed (sameTicket.trans here)] at idle
      exact law.others before listed idle

/-- The law is kept by every entry. -/
theorem entry (law : Registered deeds books) (entry : Entry books more next) :
    Registered (deeds ++ more) next := by
  cases entry with
  | respond request response isOpen refused =>
      exact law.arrive request rfl rfl List.filter_sublist
  | enlist request errand isOpen known =>
      rcases known with ⟨rfl, other⟩ | ⟨rfl, source⟩
      · exact law.enlist request .inquire (by rintro _ ⟨⟩) fun _ => other
      · refine law.enlist request (.submit _) ?_ (by rintro ⟨⟩)
        rintro job ⟨⟩
        exact ⟨source, rfl⟩
  | reject | collect | tell | leave =>
      exact law.shrink (by simp) rfl rfl List.filter_sublist
  | listen exchange inquiry waiting idle =>
      refine law.reassign (by simp) exchange.ticket (.listen inquiry) ?_ rfl rfl rfl
      intro other listed same
      rw [law.unique listed waiting same, idle]
      rfl
  | enqueue exchange job waiting submits =>
      refine law.reassign (by simp) exchange.ticket (.collect job) ?_ rfl rfl rfl
      intro other listed same
      rw [law.unique listed waiting same, submits]
      rfl
  | discard index submission rest idle queued =>
      obtain ⟨_, shape⟩ := deliver_eq ({ books with queue := rest })
        submission.ticket .nothing
      rw [shape]
      exact law.shrink (by simp) rfl rfl (List.Sublist.refl _)
  | finish index ticket duty compilation outcome busy ended =>
      obtain ⟨_, shape⟩ := deliver_eq (books.occupy index .idle)
        ticket (.report (Worker.report outcome))
      rw [shape]
      exact law.shrink (by simp) rfl rfl (List.Sublist.refl _)
  | nothing | take | compile | stop | close =>
      exact law.shrink (by simp) rfl rfl (List.Sublist.refl _)

end Registered

namespace Queued

/-- A job that was put into the queue came in before the next ticket. -/
theorem lt_fresh
    (law : Queued deeds books)
    (registered : Registered deeds books)
    {submission : Submission}
    (enqueued : submission ∈ deeds.enqueued) :
    submission.ticket < books.fresh := by
  obtain ⟨request, known, _⟩ := law.known submission enqueued
  rw [registered.fresh]
  exact (List.getElem?_eq_some_iff.1 known).1

/-- A job that was taken off the queue had been put into it. -/
theorem enqueued_of_taken
    (law : Queued deeds books)
    {index : Nat}
    {submission : Submission}
    (taken : (index, submission) ∈ deeds.taken) :
    submission ∈ deeds.enqueued := by
  rw [law.order]
  exact List.mem_append_left _ (List.mem_map_of_mem (f := Prod.snd) taken)

/-- No job was taken off the queue twice. -/
theorem taken_nodup (law : Queued deeds books) :
    (deeds.taken.map fun entry => entry.2.ticket).Nodup := by
  have distinct := law.distinct
  rw [law.order, List.map_append, List.map_map] at distinct
  exact (List.nodup_append.1 distinct).1

/-- Two jobs that were taken under one ticket were taken once, by one worker. -/
theorem taken_unique
    (law : Queued deeds books)
    {first second : Nat × Submission}
    (firstTaken : first ∈ deeds.taken)
    (secondTaken : second ∈ deeds.taken)
    (same : first.2.ticket = second.2.ticket) :
    first = second :=
  List.inj_on_of_nodup_map law.taken_nodup firstTaken secondTaken same

/-- A job in the queue has not been taken off it. -/
theorem ne_of_taken
    (law : Queued deeds books)
    {entry : Nat × Submission}
    {submission : Submission}
    (taken : entry ∈ deeds.taken)
    (queued : submission ∈ books.queue) :
    entry.2.ticket ≠ submission.ticket := by
  have distinct := law.distinct
  rw [law.order, List.map_append, List.map_map] at distinct
  exact (List.nodup_append.1 distinct).2.2 _
    (List.mem_map_of_mem taken) _ (List.mem_map_of_mem queued)

/-- The law stays when the queue does, and when none waits that has to do with it but those
that did before and those whose job was never put there. -/
theorem quiet
    (law : Queued deeds books)
    (enqueued : more.enqueued = [])
    (taken : more.taken = [])
    (queue : next.queue = books.queue)
    (names : next.names = books.names)
    (waits : ∀ exchange ∈ next.exchanges, ∀ job, exchange.errand.job? = some job →
      exchange ∈ books.exchanges ∨
        exchange.errand = .submit job ∧
          ∀ submission ∈ deeds.enqueued, submission.ticket ≠ exchange.ticket) :
    Queued (deeds ++ more) next where
  order := by
    simp [enqueued, taken, queue, law.order]
  distinct := by
    simpa [enqueued] using law.distinct
  known submission member := by
    rw [Deeds.enqueued_append, enqueued, List.append_nil] at member
    obtain ⟨request, known, source, own⟩ := law.known submission member
    rw [names]
    exact ⟨request, Deeds.received_grows known more, source, own⟩
  unsent exchange listed job submits submission member := by
    rw [Deeds.enqueued_append, enqueued, List.append_nil] at member
    rcases waits exchange listed job (by rw [submits]; rfl) with before | ⟨_, unsent⟩
    · exact law.unsent exchange before job submits submission member
    · exact unsent submission member
  sent exchange listed job collects := by
    rw [Deeds.enqueued_append, enqueued, List.append_nil]
    rcases waits exchange listed job (by rw [collects]; rfl) with before | ⟨submits, _⟩
    · exact law.sent exchange before job collects
    · rw [submits] at collects
      cases collects

/-- The law stays when a request puts its job into the queue and waits for what comes of it. -/
theorem enqueue
    (law : Queued deeds books)
    (registered : Registered deeds books)
    (exchange : Exchange)
    (job : Job)
    (waiting : exchange ∈ books.exchanges)
    (submits : exchange.errand = .submit job) :
    Queued (deeds ++ [.enqueue ⟨exchange.ticket, job⟩])
      ({ books with queue := books.queue ++ [Submission.mk exchange.ticket job] }.reassign
        exchange.ticket (.collect job)) where
  order := by
    simp [law.order, Books.reassign]
  distinct := by
    simp only [Deeds.enqueued_append, Deeds.enqueued_singleton, Deed.enqueued?,
      Option.toList_some, List.map_append, List.map_singleton]
    rw [List.nodup_append]
    refine ⟨law.distinct, List.nodup_singleton _, ?_⟩
    intro earlier listed added member
    obtain ⟨submission, enqueued, rfl⟩ := List.mem_map.1 listed
    rw [List.mem_singleton] at member
    subst member
    exact law.unsent exchange waiting job submits submission enqueued
  known submission member := by
    rw [Deeds.enqueued_append, List.mem_append] at member
    rcases member with earlier | added
    · obtain ⟨request, known, source, own⟩ := law.known submission earlier
      exact ⟨request, Deeds.received_grows known _, source, own⟩
    · simp only [Deeds.enqueued_singleton, Deed.enqueued?, Option.toList_some,
        List.mem_singleton] at added
      subst added
      obtain ⟨source, own⟩ :=
        registered.sources exchange waiting job (by rw [submits]; rfl)
      exact ⟨exchange.request,
        Deeds.received_grows (registered.known exchange waiting) _, source, own⟩
  unsent other listed otherJob otherSubmits submission member := by
    rcases of_mem_reassign listed with ⟨elsewhere, before⟩ | ⟨_, assigned, _⟩
    · rw [Deeds.enqueued_append, List.mem_append] at member
      rcases member with earlier | added
      · exact law.unsent other before otherJob otherSubmits submission earlier
      · simp only [Deeds.enqueued_singleton, Deed.enqueued?, Option.toList_some,
          List.mem_singleton] at added
        subst added
        exact elsewhere.symm
    · rw [assigned] at otherSubmits
      cases otherSubmits
  sent other listed otherJob collects := by
    rw [Deeds.enqueued_append, List.mem_append]
    rcases of_mem_reassign listed with ⟨_, before⟩ | ⟨here, assigned, _⟩
    · exact .inl (law.sent other before otherJob collects)
    · rw [assigned] at collects
      cases collects
      rw [here]
      exact .inr (by simp)

/-- The law stays when a worker takes the first job off the queue. -/
theorem take
    (law : Queued deeds books)
    (index : Nat)
    (submission : Submission)
    (rest : List Submission)
    (occupation : Occupation)
    (first : books.queue = submission :: rest) :
    Queued (deeds ++ [.take index submission])
      ({ books with queue := rest }.occupy index occupation) where
  order := by
    simp [law.order, first, occupy]
  distinct := by
    simpa using law.distinct
  known other member := by
    simp only [Deeds.enqueued_append, Deeds.enqueued_singleton, Deed.enqueued?,
      Option.toList_none, List.append_nil] at member
    obtain ⟨request, known, source, own⟩ := law.known other member
    exact ⟨request, Deeds.received_grows known _, source, own⟩
  unsent exchange listed job submits other member := by
    simp only [Deeds.enqueued_append, Deeds.enqueued_singleton, Deed.enqueued?,
      Option.toList_none, List.append_nil] at member
    exact law.unsent exchange listed job submits other member
  sent exchange listed job collects := by
    simpa using law.sent exchange listed job collects

/-- The law is kept by every entry, since no worker throws a job away. -/
theorem entry
    (law : Queued deeds books)
    (registered : Registered deeds books)
    (staffed : Staffed books)
    (entry : Entry books more next) :
    Queued (deeds ++ more) next := by
  cases entry with
  | enlist request errand isOpen known =>
      refine law.quiet rfl rfl rfl rfl ?_
      intro exchange listed job about
      rcases List.mem_append.1 listed with earlier | added
      · exact .inl earlier
      · right
        rw [List.mem_singleton] at added
        subst added
        rcases known with ⟨rfl, _⟩ | ⟨rfl, _⟩
        · cases about
        · cases about
          refine ⟨rfl, ?_⟩
          intro submission enqueued
          exact Nat.ne_of_lt (law.lt_fresh registered enqueued)
  | listen exchange inquiry waiting idle =>
      refine law.quiet rfl rfl rfl rfl ?_
      intro other listed job about
      rcases of_mem_reassign listed with ⟨_, before⟩ | ⟨_, assigned, _⟩
      · exact .inl before
      · rw [assigned] at about
        cases about
  | enqueue exchange job waiting submits =>
      exact law.enqueue registered exchange job waiting submits
  | take index submission rest idle first =>
      exact law.take index submission rest _ first
  | discard index submission rest idle first =>
      have duty := staffed.duty _ (List.mem_of_getElem? idle)
      cases duty
  | finish index ticket duty compilation outcome busy ended =>
      obtain ⟨_, shape⟩ := deliver_eq (books.occupy index .idle)
        ticket (.report (Worker.report outcome))
      rw [shape]
      exact law.quiet rfl rfl rfl rfl fun _ listed _ _ => .inl listed
  | respond | reject | collect | tell | leave =>
      exact law.quiet rfl rfl rfl rfl fun _ listed _ _ =>
        .inl (List.mem_of_mem_filter listed)
  | nothing | compile | stop | close =>
      exact law.quiet rfl rfl rfl rfl fun _ listed _ _ => .inl listed

end Queued

end Books

end CompilePlayground
