import CompilePlayground.Proofs.Service.Footprints

namespace CompilePlayground

open Posix

/-!
# Only the right requests touch what is shared

A request is followed from the moment at which it comes in, whatever the service looks like then and
whatever happens afterwards. All that it does to the queue, to the version and to the limit is what
requests of its kind are there for.
-/

namespace Service

/-- The submissions by which an occurrence lengthens the queue, if it is the doing of the request
under a ticket. -/
def added (ticket : Nat) (service : Service) (occurrence : Occurrence) : List Submission :=
  if occurrence.ticket? = some ticket then
    match service.occur? occurrence with
    | some next => next.queue.drop service.queue.length
    | none => []
  else
    []

variable {service taken reached next : Service} {request : Http.Request} {exchange : Exchange}
  {course : List Occurrence} {occurrence : Occurrence} {entered : List Submission}

/-! ## Paths that lead nowhere -/

/-- What a request may wait for that came to a service. -/
inductive Awaits (service : Service) (request : Http.Request) : Errand → Prop where
  | submit (passes : service.Passes request) :
      Awaits service request (.submit (jobOf service.names service.fresh request))
  | collect (passes : service.Passes request) :
      Awaits service request (.collect (jobOf service.names service.fresh request))
  | inquire (inquires : request.IsInquiry) :
      Awaits service request .inquire
  | listen (inquires : request.IsInquiry) (inquiry : Inquiry) :
      Awaits service request (.listen inquiry)

/-- Where a request stands that came to a service, and what it has put into the queue. -/
structure Underway
    (service : Service)
    (request : Http.Request)
    (reached : Service)
    (entered : List Submission) :
    Prop where
  older : service.fresh < reached.fresh
  awaits : ∀ exchange ∈ reached.exchanges, exchange.ticket = service.fresh →
    exchange.request = request ∧ Awaits service request exchange.errand
  entered : entered = [] ∨ service.Passes request ∧
    entered = [⟨service.fresh, jobOf service.names service.fresh request⟩] ∧
    ∀ exchange ∈ reached.exchanges, exchange.ticket = service.fresh →
      ∀ job, exchange.errand ≠ .submit job
  readable : ∀ reply ∈ reached.replies, reply ∈ service.replies ∨
    Http.Sharing.originField ∈ reply.response.fields

theorem added_eq
    (own : occurrence.ticket? = some service.fresh)
    (made : reached.occur? occurrence = some next)
    {more : List Submission}
    (queue : next.queue = reached.queue ++ more) :
    added service.fresh reached occurrence = more := by
  unfold added
  simp only [if_pos own, made, queue, List.drop_left]

theorem added_eq_nil
    (other : occurrence.ticket? ≠ some service.fresh) :
    added service.fresh reached occurrence = [] := by
  unfold added
  rw [if_neg other]

namespace Underway

/-- A request that has come in waits under its own ticket, or not at all. -/
theorem start
    (unused : service.exchange? service.fresh = none)
    (receipt : Receipt service request taken) :
    Underway service request taken [] where
  older := by
    rw [receipt.frame.2.2.2.2]
    exact Nat.lt_succ_self _
  awaits exchange waits own := by
    rcases receipt.errand_of_mem waits with before | ⟨_, same, ⟨passes, errand⟩ | ⟨inquires, errand⟩⟩
    · have free := List.find?_eq_none.1 unused exchange before
      exact absurd (decide_eq_true own) free
    · rw [errand]
      exact ⟨same, .submit passes⟩
    · rw [errand]
      exact ⟨same, .inquire inquires⟩
  entered := .inl rfl
  readable _ sent := receipt.reads_of_mem sent

/-- What leaves those alone that wait under the ticket leaves the request where it stands. -/
theorem still
    (law : Underway service request reached entered)
    (older : reached.fresh ≤ next.fresh)
    (waiting : ∀ exchange ∈ next.exchanges, exchange.ticket = service.fresh →
      exchange ∈ reached.exchanges)
    (readable : ∀ reply ∈ next.replies, reply ∈ reached.replies ∨
      Http.Sharing.originField ∈ reply.response.fields) :
    Underway service request next entered where
  older := Nat.lt_of_lt_of_le law.older older
  awaits exchange waits own := law.awaits exchange (waiting exchange waits own) own
  entered := by
    rcases law.entered with none | ⟨passes, one, submitted⟩
    · exact .inl none
    · exact .inr ⟨passes, one, fun exchange waits own =>
        submitted exchange (waiting exchange waits own) own⟩
  readable reply sent := by
    rcases readable reply sent with before | now
    · exact law.readable reply before
    · exact .inr now

/-- The request itself goes on. -/
theorem advance
    (law : Underway service request reached entered)
    (waits : exchange ∈ reached.exchanges)
    (own : exchange.ticket = service.fresh)
    {more : List Submission}
    (advance : Advance reached exchange more next) :
    Underway service request next (entered ++ more) where
  older := by
    rw [advance.frame.2.2]
    exact law.older
  awaits same waiting mine := by
    obtain ⟨⟨before, waited, sameTicket, sameRequest⟩, errand⟩ :=
      advance.errand_of_mem (mine.trans own.symm) waiting
    rw [← sameRequest]
    refine ⟨(law.awaits before waited (sameTicket.trans mine)).1, ?_⟩
    have awaited := (law.awaits exchange waits own).2
    rcases errand with ⟨job, submits, collects⟩ | ⟨asks, inquiry, listens⟩
    · rw [submits] at awaited
      cases awaited with
      | submit passes =>
          rw [collects]
          exact .collect passes
    · rw [listens]
      cases shape : exchange.errand <;> rw [shape] at awaited asks
      · cases asks
      · cases asks
      · cases awaited with
        | inquire inquires =>
            exact .listen inquires inquiry
      · cases awaited with
        | listen inquires _ =>
            exact .listen inquires inquiry
  entered := by
    have submitted : ∀ same ∈ next.exchanges, same.ticket = service.fresh →
        ∀ job, same.errand ≠ .submit job := fun same waiting mine =>
      advance.errand_ne_submit (mine.trans own.symm) waiting
    rcases advance.added_cases with rfl | ⟨job, submits, rfl⟩
    · rw [List.append_nil]
      rcases law.entered with none | ⟨passes, one, _⟩
      · exact .inl none
      · exact .inr ⟨passes, one, submitted⟩
    · have awaited := (law.awaits exchange waits own).2
      rw [submits] at awaited
      cases awaited with
      | submit passes =>
          rcases law.entered with none | ⟨_, _, before⟩
          · rw [none, own]
            exact .inr ⟨passes, rfl, submitted⟩
          · exact absurd submits (before exchange waits own _)
  readable reply sent := by
    rcases advance.reads_of_mem sent with before | now
    · exact law.readable reply before
    · exact .inr now

/-- Another request that goes on leaves this one where it stands. -/
theorem aside
    (law : Underway service request reached entered)
    (other : exchange.ticket ≠ service.fresh)
    {more : List Submission}
    (advance : Advance reached exchange more next) :
    Underway service request next entered := by
  refine law.still (Nat.le_of_eq advance.frame.2.2.symm) ?_ fun _ => advance.reads_of_mem
  intro waiting waits own
  refine advance.mem_of_ne ?_ waits
  rw [own]
  exact other.symm

/-- A later request that comes in leaves this one where it stands. -/
theorem receive
    (law : Underway service request reached entered)
    {later : Http.Request}
    (receipt : Receipt reached later next) :
    Underway service request next entered := by
  refine law.still ?_ ?_ fun _ => receipt.reads_of_mem
  · rw [receipt.frame.2.2.2.2]
    exact Nat.le_succ _
  · intro waiting waits own
    rcases receipt.errand_of_mem waits with before | ⟨ticket, _⟩
    · exact before
    · rw [own] at ticket
      exact absurd ticket (Nat.ne_of_lt law.older)

/-- Whatever happens, the request goes on as it may. -/
theorem step
    (law : Underway service request reached entered)
    (made : reached.occur? occurrence = some next) :
    Underway service request next (entered ++ added service.fresh reached occurrence) := by
  by_cases own : occurrence.ticket? = some service.fresh
  · obtain ⟨exchange, waits, more, ticket, advance⟩ := advance_of_occur? own made
    rw [added_eq own made advance.queue_eq]
    exact law.advance waits ticket advance
  · rw [added_eq_nil own, List.append_nil]
    cases named : occurrence.ticket? with
    | some ticket =>
        obtain ⟨exchange, _, _, same, advance⟩ := advance_of_occur? named made
        refine law.aside ?_ advance
        intro mine
        exact own (named.trans (congrArg some (same.symm.trans mine)))
    | none =>
        cases comes : occurrence.request? with
        | some later =>
            have receives : occurrence = .move (.receive later) := by
              unfold Occurrence.request? at comes
              split at comes <;> cases comes
              rfl
            subst receives
            simp only [occur?, step?, Option.ite_none_right_eq_some, Option.some.injEq] at made
            rw [← made.2]
            exact law.receive (receipt_receive reached later)
        | none =>
            have apart := apart_of_occur? named comes made
            refine law.still (Nat.le_of_eq apart.fresh.symm) ?_ ?_
            · intro waiting waits _
              rwa [← apart.exchanges]
            · intro reply sent
              rw [apart.replies] at sent
              exact .inl sent

end Underway

/-- Wherever a course from the launch of a service leads, nobody waits under the next ticket. -/
theorem exchange?_fresh_of_course
    {host : Host}
    {settings : CompilerSettings}
    {pageName : Bytes}
    {rate? : Option Nat}
    {workers : Nat}
    {names : Nat → String}
    {machine : Machine}
    (run : (launch host settings pageName rate? workers machine names).undergo? course =
      some service) :
    service.exchange? service.fresh = none := by
  rw [exchange?, List.find?_eq_none]
  intro exchange waits own
  exact Nat.lt_irrefl _ (of_decide_eq_true own ▸ (kept_of_course run).registered.lt_fresh waits)

namespace Sample

/-- A service with a limit, at which a job waits and the version is known. -/
def furnished : Service :=
  { launch host settings [] (some 1) 1 machine with
    queue := [⟨3, ⟨"earlier", [98]⟩⟩],
    version := .known "v 1",
    fresh := 7 }

/-- The job is put into the queue, a worker takes the earlier one, and a request comes in that leads
nowhere. -/
def afterwards : List Occurrence :=
  [.move (.attend 7), .move (.work 0), .move (.receive ⟨"POST", "/compile/", [], [99], none⟩)]

end Sample

end Service

end CompilePlayground
