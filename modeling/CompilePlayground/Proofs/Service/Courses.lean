import CompilePlayground.Proofs.Service.Entries
import Mathlib.Data.List.Induction

namespace CompilePlayground

open Posix

/-!
# What happens around the service

The machine does not belong to the service alone: between two moves files may be replaced,
processes may start or be gone, and time may have passed. A course is a list of occurrences, each
of them a move of the service or a change of the machine of whatever kind. Books are not kept in
the machine, so that their laws hold on every course.
-/

namespace Service

/-- Something that happens: a move of the service, or a change of the machine that it has no part
in. -/
inductive Occurrence where
  | move (move : Move)
  | change (machine : Machine)

namespace Occurrence

/-- The request that comes in. -/
def request? : Occurrence → Option Http.Request
  | move (.receive request) => some request
  | _ => none

end Occurrence

/-- The service after something has happened, if it can happen. -/
def occur? (service : Service) : Occurrence → Option Service
  | .move move => service.step? move
  | .change machine => some (service.withMachine machine)

/-- The service after a course, if all of it can happen. -/
def undergo? (service : Service) (course : List Occurrence) : Option Service :=
  course.foldlM occur? service

/-- The requests that come in on a course. The ticket of each is its place among them. -/
def arrivals (course : List Occurrence) : List Http.Request :=
  course.filterMap Occurrence.request?

@[simp] theorem arrivals_append (first second : List Occurrence) :
    arrivals (first ++ second) = arrivals first ++ arrivals second :=
  List.filterMap_append

@[simp] theorem arrivals_singleton (occurrence : Occurrence) :
    arrivals [occurrence] = occurrence.request?.toList := by
  rw [arrivals, List.filterMap_cons]
  cases occurrence.request? <;> rfl

/-- What an occurrence does for requests and jobs. -/
def deedsOf (service : Service) : Occurrence → Deeds
  | .move move => service.deeds move
  | .change _ => []

/-- What is read off one occurrence after the other, as long as they can happen. -/
def gather {α : Type} (read : Service → Occurrence → List α) : Service → List Occurrence → List α
  | _, [] => []
  | service, occurrence :: rest =>
    match service.occur? occurrence with
    | some next => read service occurrence ++ gather read next rest
    | none => []

/-- What a course does for requests and jobs. -/
def account (service : Service) (course : List Occurrence) : Deeds :=
  gather deedsOf service course

/-- The moments at which requests come in. -/
def moments (service : Service) (course : List Occurrence) : List Nat :=
  gather (fun service occurrence => occurrence.request?.toList.map fun _ => service.machine.clock)
    service course

variable {service first reached next : Service} {course : List Occurrence}
  {occurrence : Occurrence}

@[simp] theorem undergo?_nil (service : Service) : service.undergo? [] = some service :=
  rfl

theorem undergo?_append (service : Service) (course more : List Occurrence) :
    service.undergo? (course ++ more) =
      (service.undergo? course).bind fun reached => reached.undergo? more :=
  List.foldlM_append

@[simp] theorem undergo?_singleton (service : Service) (occurrence : Occurrence) :
    service.undergo? [occurrence] = service.occur? occurrence := by
  simp [undergo?]

/-- A course has a last occurrence, or it is empty. -/
theorem undergo?_snoc :
    service.undergo? (course ++ [occurrence]) = some reached ↔
      ∃ last, service.undergo? course = some last ∧ last.occur? occurrence = some reached := by
  rw [undergo?_append, Option.bind_eq_some_iff]
  simp only [undergo?_singleton]

/-- What holds at the beginning of a course and is kept by everything that happens holds wherever
the course leads. -/
theorem undergo?_induction
    {motive : List Occurrence → Service → Prop}
    (start : motive [] first)
    (keeps : ∀ course service occurrence next,
      first.undergo? course = some service → motive course service →
        service.occur? occurrence = some next → motive (course ++ [occurrence]) next)
    (run : first.undergo? course = some reached) :
    motive course reached := by
  induction course using List.reverseRecOn generalizing reached with
  | nil =>
      cases run
      exact start
  | append_singleton course occurrence inductionHypothesis =>
      obtain ⟨last, before, made⟩ := undergo?_snoc.1 run
      exact keeps course last occurrence reached before (inductionHypothesis before) made

/-- What is read off the last occurrence of a course comes last. -/
theorem gather_snoc
    {α : Type}
    (read : Service → Occurrence → List α)
    (run : service.undergo? course = some reached)
    (made : reached.occur? occurrence = some next) :
    gather read service (course ++ [occurrence]) =
      gather read service course ++ read reached occurrence := by
  induction course generalizing service with
  | nil =>
      cases run
      simp [gather, made]
  | cons head rest inductionHypothesis =>
      unfold undergo? at run
      rw [List.foldlM_cons, Option.bind_eq_bind, Option.bind_eq_some_iff] at run
      obtain ⟨second, happened, onward⟩ := run
      rw [List.cons_append, gather, gather, happened]
      simp only [inductionHypothesis onward, List.append_assoc]

theorem account_snoc
    (run : service.undergo? course = some reached)
    (made : reached.occur? occurrence = some next) :
    service.account (course ++ [occurrence]) =
      service.account course ++ reached.deedsOf occurrence :=
  gather_snoc deedsOf run made

/-- Every occurrence changes the books in one of the ways that are listed. -/
theorem entry_of_occur?
    (made : service.occur? occurrence = some next) :
    Books.Entry service.books (service.deedsOf occurrence) next.books := by
  cases occurrence with
  | move move =>
      exact entry_of_step? made
  | change machine =>
      cases made
      exact .nothing

/-- No request but the one that comes in is received. -/
theorem received_deedsOf (service : Service) (occurrence : Occurrence) :
    (service.deedsOf occurrence).received = occurrence.request?.toList := by
  cases occurrence with
  | change machine =>
      rfl
  | move move =>
      cases move with
      | receive request | leave ticket | run process | wait moment | close =>
          rfl
      | attend ticket =>
          simp only [deedsOf, deeds]
          split
          · split <;> rfl
          · rfl
      | work index =>
          simp only [deedsOf, deeds]
          split
          · cases service.queue <;> rfl
          · split <;> rfl
          · rfl

/-- The requests that a course receives are those that come in on it. -/
theorem received_account
    (run : service.undergo? course = some reached) :
    (service.account course).received = arrivals course := by
  refine undergo?_induction
    (motive := fun course _ => (service.account course).received = arrivals course) rfl ?_ run
  intro course last occurrence next before same made
  rw [account_snoc before made, Deeds.received_append, same, received_deedsOf, arrivals_append,
    arrivals_singleton]

theorem deliver_eq (service : Service) (ticket : Nat) (delivery : Delivery) :
    ∃ deliveries, service.deliver ticket delivery = { service with deliveries } := by
  unfold deliver
  split <;> exact ⟨_, rfl⟩

/-- A worker that goes on leaves alone what belongs to requests. -/
theorem work?_eq
    {index : Nat}
    (made : service.work? index = some next) :
    ∃ queue seats deliveries machine events,
      next = { service with queue, seats, deliveries, machine, events } := by
  unfold work? at made
  split at made
  next =>
    cases made
  next seat _ =>
    split at made
    · cases made
    · unfold compile? at made
      split at made
      next ticket compilation _ _ outcome _ =>
        obtain ⟨_, shape⟩ :=
          deliver_eq (service.occupy index .idle) ticket (.report (Worker.report outcome))
        cases made
        unfold finish
        rw [shape]
        exact ⟨_, _, _, _, _, rfl⟩
      next =>
        obtain ⟨_, _, rfl⟩ := Option.map_eq_some_iff.1 made
        exact ⟨_, _, _, _, _, rfl⟩
    · split at made
      next submission rest _ =>
        cases made
        unfold take
        split
        · exact ⟨_, _, _, _, _, rfl⟩
        · obtain ⟨_, shape⟩ := deliver_eq { service with queue := rest } submission.ticket .nothing
          rw [shape]
          exact ⟨_, _, _, _, _, rfl⟩
      next =>
        split at made
        · cases made
        · cases made
          unfold stop
          split <;> exact ⟨_, _, _, _, _, rfl⟩

/-- A request that comes in is answered or put on the list, and has no other effect. -/
theorem receive_eq (service : Service) (request : Http.Request) :
    ∃ limit? deliveries exchanges replies fresh events,
      service.receive request =
        { service with limit?, deliveries, exchanges, replies, fresh, events } := by
  have source (service : Service) (ticket : Nat) :
      ∃ deliveries exchanges replies events,
        service.receiveSource ticket request =
          { service with deliveries, exchanges, replies, events } := by
    unfold receiveSource
    split <;> exact ⟨_, _, _, _, rfl⟩
  have limited (service : Service) (ticket : Nat) :
      ∃ limit? deliveries exchanges replies events,
        service.receiveLimited ticket request =
          { service with limit?, deliveries, exchanges, replies, events } := by
    unfold receiveLimited
    split
    · obtain ⟨_, _, _, _, shape⟩ := source service ticket
      rw [shape]
      exact ⟨_, _, _, _, _, rfl⟩
    next limit _ =>
      split
      next spent _ =>
        obtain ⟨_, _, _, _, shape⟩ := source { service with limit? := some spent } ticket
        rw [shape]
        exact ⟨_, _, _, _, _, rfl⟩
      next =>
        exact ⟨_, _, _, _, _, rfl⟩
  unfold receive receiveAs
  split
  next =>
    exact ⟨_, _, _, _, _, _, rfl⟩
  next =>
    split
    · exact ⟨_, _, _, _, _, _, rfl⟩
    · obtain ⟨_, _, _, _, _, shape⟩ :=
        limited { service with fresh := service.fresh + 1 } service.fresh
      rw [shape]
      exact ⟨_, _, _, _, _, _, rfl⟩
    next route other _ =>
      split
      · cases route with
        | compile =>
            exact (other rfl).elim
        | page | icon | version | titles | extension =>
            exact ⟨_, _, _, _, _, _, rfl⟩
      · exact ⟨_, _, _, _, _, _, rfl⟩

section Launched

variable
  {host : Host}
  {settings : CompilerSettings}
  {pageName : Bytes}
  {rate? : Option Nat}
  {workers : Nat}
  {names : Nat → String}
  {machine : Machine}

/-- All laws hold wherever a course from the launch of a service leads. -/
theorem kept_of_course
    (run : (launch host settings pageName rate? workers machine names).undergo? course =
      some service) :
    Books.Kept ((launch host settings pageName rate? workers machine names).account course)
      service.books := by
  refine undergo?_induction
    (motive := fun course service =>
      Books.Kept ((launch host settings pageName rate? workers machine names).account course)
        service.books)
    (kept_launch host settings pageName rate? workers machine names) ?_ run
  intro course last occurrence next before laws made
  rw [account_snoc before made]
  exact laws.entry (entry_of_occur? made)

/-- Nothing that happens changes the host or the settings. -/
theorem settings_of_course
    (run : (launch host settings pageName rate? workers machine names).undergo? course =
      some service) :
    service.host = host ∧ service.settings = settings := by
  refine undergo?_induction
    (motive := fun _ service => service.host = host ∧ service.settings = settings)
    ⟨rfl, rfl⟩ ?_ run
  rintro course last occurrence next - ⟨sameHost, sameSettings⟩ made
  obtain ⟨nextHost, nextSettings, _⟩ := Books.entry_settings (entry_of_occur? made)
  exact ⟨nextHost.trans sameHost, nextSettings.trans sameSettings⟩

end Launched

end Service

end CompilePlayground
