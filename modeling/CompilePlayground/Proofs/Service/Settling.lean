import CompilePlayground.Proofs.Service.Courses
import CompilePlayground.Proofs.Service.Drain

namespace CompilePlayground

open Posix

/-!
# Whoever has its job in the queue is told what came of it

A request that has been answered does not wait any more, so that its job is not put into the queue
afterwards. A request whose job is in the queue waits for a report, and gets one: the worker that
takes the job goes on with it whenever it is its turn, until the compiler's time is over at the
latest.
-/

namespace Books

variable {deeds more : Deeds} {books next : Books}

/-- Who has been answered waits no more, and who has put a job into the queue has been answered
with a report. -/
structure Settled (deeds : Deeds) (books : Books) : Prop where
  gone : ∀ reply ∈ books.replies, ∀ exchange ∈ books.exchanges,
    exchange.ticket ≠ reply.ticket
  reported : ∀ reply ∈ books.replies, ∀ submission ∈ deeds.enqueued,
    submission.ticket = reply.ticket → ∀ request, deeds.received[reply.ticket]? = some request →
      Reported deeds reply.ticket request reply.response

/-- A request that has been let go with a response waits no more. -/
theorem Settled.gone_reply
    (law : Settled deeds books)
    {ticket : Nat}
    {response : Http.Response}
    (reply : Reply)
    (sent : reply ∈ (books.reply ticket response).replies)
    (exchange : Exchange)
    (waits : exchange ∈ (books.reply ticket response).exchanges) :
    exchange.ticket ≠ reply.ticket := by
  obtain ⟨before, apart⟩ := mem_dismiss.1 waits
  rcases List.mem_append.1 sent with earlier | now
  · exact law.gone reply earlier exchange before
  · rw [List.mem_singleton.1 now]
    exact apart

theorem Settled.gone_entry
    (law : Settled deeds books)
    (laws : Kept deeds books)
    (entry : Entry books more next)
    (reply : Reply)
    (sent : reply ∈ next.replies)
    (exchange : Exchange)
    (waits : exchange ∈ next.exchanges) :
    exchange.ticket ≠ reply.ticket := by
  have reassigned {ticket : Nat} {errand : Errand}
      (earlier : reply ∈ books.replies)
      (waits : exchange ∈ (books.reassign ticket errand).exchanges) :
      exchange.ticket ≠ reply.ticket := by
    rcases of_mem_reassign waits with ⟨_, before⟩ | ⟨_, _, before, waited, same, _⟩
    · exact law.gone reply earlier exchange before
    · rw [← same]
      exact law.gone reply earlier before waited
  have delivered {books' : Books} (ticket : Nat) (delivery : Delivery)
      (exchanges : books'.exchanges = books.exchanges)
      (replies : books'.replies = books.replies)
      (sent : reply ∈ (books'.deliver ticket delivery).replies)
      (waits : exchange ∈ (books'.deliver ticket delivery).exchanges) :
      exchange.ticket ≠ reply.ticket := by
    obtain ⟨_, shape⟩ := deliver_eq books' ticket delivery
    rw [shape] at sent waits
    rw [replies] at sent
    rw [exchanges] at waits
    exact law.gone reply sent exchange waits
  cases entry with
  | nothing | take | compile | stop | close =>
      exact law.gone reply sent exchange waits
  | respond request response =>
      have known : Settled deeds { books with fresh := books.fresh + 1 } :=
        ⟨law.gone, law.reported⟩
      exact known.gone_reply reply sent exchange waits
  | enlist request errand =>
      rcases List.mem_append.1 waits with before | now
      · exact law.gone reply sent exchange before
      · rw [List.mem_singleton.1 now]
        obtain ⟨_, known, _⟩ := laws.replied reply sent
        have earlier := (List.getElem?_eq_some_iff.1 known).1
        rw [← laws.registered.fresh] at earlier
        exact Nat.ne_of_gt earlier
  | reject | collect | tell =>
      exact law.gone_reply reply sent exchange waits
  | leave =>
      exact law.gone reply sent exchange (mem_dismiss.1 waits).1
  | listen | enqueue =>
      exact reassigned sent waits
  | discard index submission rest =>
      exact @delivered { books with queue := rest } _ _ rfl rfl sent waits
  | finish index =>
      exact @delivered (books.occupy index .idle) _ _ rfl rfl sent waits

/-- A job that has been put into the queue belongs to an earlier request than the one that comes
in. -/
theorem Kept.earlier_of_enqueued
    (laws : Kept deeds books)
    {submission : Submission}
    (put : submission ∈ deeds.enqueued) :
    submission.ticket < books.fresh := by
  obtain ⟨_, known, _⟩ := laws.queued.known submission put
  rw [laws.registered.fresh]
  exact (List.getElem?_eq_some_iff.1 known).1

/-- Every entry keeps the law. -/
theorem Settled.entry
    (law : Settled deeds books)
    (laws : Kept deeds books)
    (entry : Entry books more next) :
    Settled (deeds ++ more) next where
  gone := law.gone_entry laws entry
  reported reply sent submission put own request known := by
    rw [Deeds.received_append] at known
    have earlier (answered : reply ∈ books.replies) (put : submission ∈ deeds.enqueued) :
        Reported (deeds ++ more) reply.ticket request reply.response := by
      obtain ⟨_, asked, _⟩ := laws.replied reply answered
      rw [List.getElem?_append_left (List.getElem?_eq_some_iff.1 asked).1] at known
      exact (law.reported reply answered submission put own request known).mono more
    rw [Deeds.enqueued_append, List.mem_append] at put
    rcases put with before | now
    · by_cases quiet : more.received = []
      · rcases laws.replied_of_entry entry quiet sent with
          answered | ⟨exchange, waits, same, told⟩
        · exact earlier answered before
        · have asked := laws.registered.known exchange waits
          rw [quiet, List.append_nil] at known
          rw [same, known, Option.some.injEq] at asked
          obtain ⟨_, source, isSource, _⟩ := laws.queued.known submission before
          rw [own, known, Option.some.injEq] at source
          subst asked source
          exact (told isSource).mono more
      · -- A request that comes in is answered under a ticket of its own.
        refine earlier ?_ before
        cases entry with
        | respond =>
            rcases List.mem_append.1 sent with answered | now
            · exact answered
            · rw [List.mem_singleton.1 now] at own
              exact absurd own (Nat.ne_of_lt (laws.earlier_of_enqueued before))
        | enlist =>
            exact sent
        | _ =>
            exact absurd rfl quiet
    · -- A request that puts its job into the queue waits, so that it has not been answered.
      obtain ⟨exchange, waits, same, _⟩ := entry.enqueued now
      cases entry with
      | enqueue =>
          exact absurd (same.trans own) (law.gone reply sent exchange waits)
      | _ =>
          cases now

end Books

namespace Service

variable {service : Service} {deeds : Deeds} {index ticket : Nat} {duty : Duty}

/-- A worker that is at a job gets done with it on its own, given time. -/
theorem exists_finish
    (compilation : Compilation)
    (busy : service.seats[index]? = some ⟨duty, .busy ticket compilation⟩) :
    ∃ moves later outcome,
      (∀ move ∈ moves, move = .work index ∨ ∃ moment, move = .wait moment) ∧
      service.steps? moves = some later ∧ later.exchanges = service.exchanges ∧
      Deed.finish index ⟨ticket, compilation.job⟩ outcome ∈ service.history moves := by
  -- The stages that are left become fewer.
  induction left : compilation.stage.rank using Nat.strongRecOn
    generalizing service compilation with
  | ind left inductionHypothesis =>
    subst left
    cases ended : compilation.outcome? with
    | some outcome =>
        have made : service.step? (.work index) =
            some (service.finish index ticket compilation.job outcome) := by
          simp only [step?, work?, busy, compile?, ended]
        refine ⟨[.work index], service.finish index ticket compilation.job outcome, outcome,
          ?_, ?_, ?_, ?_⟩
        · intro move listed
          exact .inl (List.mem_singleton.1 listed)
        · simp only [steps?, List.foldlM_cons, made]
          rfl
        · obtain ⟨_, shape⟩ := deliver_eq (service.occupy index .idle) ticket
            (.report (Worker.report outcome))
          unfold finish
          rw [shape]
          rfl
        · simp [history, made, Service.deeds, busy, ended]
    | none =>
        let moment := compilation.deadline?.getD 0
        obtain ⟨stepped, step⟩ := Option.isSome_iff_exists.1
          (Compilation.step_overtime_isSome ended service.host service.machine)
        let waited := service.withMachine (compilation.overtime service.machine)
        let worked := ((waited.withMachine stepped.machine).occupy index
          (.busy ticket stepped.compilation)).log stepped.events
        have waits : service.step? (.wait moment) = some waited :=
          rfl
        have works : waited.step? (.work index) = some worked := by
          have place : waited.seats[index]? = some ⟨duty, .busy ticket compilation⟩ :=
            busy
          have goes : compilation.step waited.host waited.machine = some stepped :=
            step
          simp only [step?, work?, place, compile?, ended, goes]
          rfl
        have place : worked.seats[index]? = some ⟨duty, .busy ticket stepped.compilation⟩ := by
          have turned : worked.seats =
              service.seats.modify index fun seat =>
                { seat with occupation := .busy ticket stepped.compilation } :=
            rfl
          rw [turned, List.getElem?_modify, busy]
          simp
        obtain ⟨moves, later, outcome, own, run, exchanges, finished⟩ :=
          inductionHypothesis _ (Compilation.rank_of_step step) stepped.compilation place rfl
        have job : stepped.compilation.job = compilation.job := by
          obtain ⟨_, shape⟩ := Compilation.step_keeps step
          rw [shape]
          rfl
        rw [job] at finished
        refine ⟨.wait moment :: .work index :: moves, later, outcome, ?_, ?_, exchanges, ?_⟩
        · intro move listed
          rcases List.mem_cons.1 listed with rfl | listed
          · exact .inr ⟨moment, rfl⟩
          rcases List.mem_cons.1 listed with rfl | listed
          · exact .inl rfl
          · exact own move listed
        · unfold steps? at run ⊢
          rw [List.foldlM_cons, waits, Option.bind_eq_bind, Option.bind_some, List.foldlM_cons,
            works, Option.bind_eq_bind, Option.bind_some]
          exact run
        · rw [history, waits]
          simp only [history, works]
          exact List.mem_append_right _ (List.mem_append_right _ finished)

/-- A request that waits for a report is answered once one is laid out. -/
theorem exists_reply
    (laws : Books.Kept deeds service.books)
    {exchange : Exchange}
    {job : Job}
    {delivery : Delivery}
    (waiting : exchange ∈ service.exchanges)
    (collects : exchange.errand = .collect job)
    (laid : (exchange.ticket, delivery) ∈ service.deliveries) :
    ∃ later response, service.step? (.attend exchange.ticket) = some later ∧
      ⟨exchange.ticket, response⟩ ∈ later.replies := by
  cases found : service.deliveries.lookup exchange.ticket with
  | none =>
      have missing := List.lookup_eq_none_iff.1 found _ laid
      simp at missing
  | some delivery =>
      have made : service.step? (.attend exchange.ticket) = service.collect? exchange := by
        simp only [step?, attend?, laws.registered.exchange?_eq waiting, collects]
      rw [made, collect?, found]
      cases delivery with
      | report report =>
          exact ⟨_, _, rfl, List.mem_append_right _ (List.mem_singleton_self _)⟩
      | nothing =>
          exact ⟨_, _, rfl, List.mem_append_right _ (List.mem_singleton_self _)⟩

/-- A client that waits for a job that was taken is answered as soon as the worker and the request
have had their turns. -/
theorem exists_answer
    (laws : Books.Kept deeds service.books)
    {submission : Submission}
    {exchange : Exchange}
    (taken : (index, submission) ∈ deeds.taken)
    (waiting : exchange ∈ service.exchanges)
    (own : exchange.ticket = submission.ticket) :
    ∃ moves later response,
      (∀ move ∈ moves, move = .attend submission.ticket ∨ move = .work index ∨
        ∃ moment, move = .wait moment) ∧
      service.steps? moves = some later ∧ ⟨submission.ticket, response⟩ ∈ later.replies := by
  have enqueued := laws.queued.enqueued_of_taken taken
  have collects : ∃ job, exchange.errand = .collect job := by
    obtain ⟨request, known, source, _⟩ := laws.queued.known submission enqueued
    rw [← own, laws.registered.known exchange waiting, Option.some.injEq] at known
    subst known
    cases errand : exchange.errand with
    | collect job =>
        exact ⟨job, rfl⟩
    | submit job =>
        exact absurd own.symm (laws.queued.unsent exchange waiting job errand submission enqueued)
    | inquire | listen =>
        exact absurd source (laws.registered.others exchange waiting (by rw [errand]; rfl))
  obtain ⟨job, collects⟩ := collects
  rw [← own]
  rcases laws.worked.placed index submission taken with ⟨duty, compilation, busy, same⟩ | done
  · obtain ⟨moves, waited, outcome, turns, run, exchanges, finished⟩ :=
      exists_finish compilation busy
    have later := kept_steps? laws run
    have still : exchange ∈ waited.exchanges := by
      rw [exchanges]
      exact waiting
    have laid := later.delivered.complete index _ outcome (List.mem_append_right _ finished)
      exchange still own
    rw [← own] at laid
    obtain ⟨last, response, made, told⟩ := exists_reply later still collects laid
    refine ⟨moves ++ [.attend exchange.ticket], last, response, ?_, ?_, told⟩
    · intro move listed
      rcases List.mem_append.1 listed with turn | attends
      · exact .inr (turns move turn)
      · exact .inl (List.mem_singleton.1 attends)
    · unfold steps? at run ⊢
      rw [List.foldlM_append, run]
      simpa using made
  · obtain ⟨outcome, finished⟩ := Deeds.mem_finished.1 done
    have laid := laws.delivered.complete index _ outcome finished exchange waiting own
    rw [← own] at laid
    obtain ⟨last, response, made, told⟩ := exists_reply laws waiting collects laid
    refine ⟨[.attend exchange.ticket], last, response, ?_, ?_, told⟩
    · intro move listed
      exact .inl (List.mem_singleton.1 listed)
    · simpa [steps?] using made

end Service

end CompilePlayground
