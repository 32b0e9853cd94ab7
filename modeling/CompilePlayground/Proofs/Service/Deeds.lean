import CompilePlayground.Service.Turn

namespace CompilePlayground

open Posix

/-!
# What a run of the service does for jobs

A `Deed` is something that happens to a request or a job: a request comes in, its job is put
into the queue, a worker takes the job, brings it one step further, and is done with it.
`Service.deeds` reads off a service what a move does, and `Service.history` gathers the deeds
of a whole run.
-/

/-- Something that is done for a request or a job. -/
inductive Deed where
  | receive (request : Http.Request)
  | enqueue (submission : Submission)
  | take (index : Nat) (submission : Submission)
  | compile (index : Nat) (submission : Submission) (machine : Machine)
  | finish (index : Nat) (submission : Submission) (outcome : Outcome)

namespace Deed

/-- The request that came in. -/
@[simp] def received? : Deed → Option Http.Request
  | receive request => some request
  | _ => none

/-- The job that was put into the queue. -/
@[simp] def enqueued? : Deed → Option Submission
  | enqueue submission => some submission
  | _ => none

/-- The job that was taken off the queue, with the number of the worker. -/
@[simp] def taken? : Deed → Option (Nat × Submission)
  | take index submission => some (index, submission)
  | _ => none

/-- The job that a worker is done with, with the number of the worker. -/
@[simp] def finished? : Deed → Option (Nat × Submission)
  | finish index submission _ => some (index, submission)
  | _ => none

/-- Whether a worker is behind what is done. -/
@[simp] def isWork : Deed → Bool
  | receive _ => false
  | enqueue _ => false
  | take _ _ => true
  | compile _ _ _ => true
  | finish _ _ _ => true

/-- The machine that the job under a ticket was brought further on. -/
@[simp] def machineFor? (ticket : Nat) : Deed → Option Machine
  | compile _ submission machine => if submission.ticket = ticket then some machine else none
  | _ => none

end Deed

/-- The deeds of a run, in their order. -/
abbrev Deeds := List Deed

namespace Deeds

/-- The requests that came in. The ticket of each is its place among them. -/
def received (deeds : Deeds) : List Http.Request :=
  deeds.filterMap Deed.received?

/-- The jobs that were put into the queue. -/
def enqueued (deeds : Deeds) : List Submission :=
  deeds.filterMap Deed.enqueued?

/-- The jobs that were taken off the queue, each with its worker. -/
def taken (deeds : Deeds) : List (Nat × Submission) :=
  deeds.filterMap Deed.taken?

/-- The jobs that workers are done with, each with its worker. -/
def finished (deeds : Deeds) : List (Nat × Submission) :=
  deeds.filterMap Deed.finished?

/-- The machines that the job under a ticket was brought further on. -/
def machinesFor (deeds : Deeds) (ticket : Nat) : List Machine :=
  deeds.filterMap (Deed.machineFor? ticket)

@[simp] theorem received_append (first second : Deeds) :
    received (first ++ second) = received first ++ received second :=
  List.filterMap_append

@[simp] theorem enqueued_append (first second : Deeds) :
    enqueued (first ++ second) = enqueued first ++ enqueued second :=
  List.filterMap_append

@[simp] theorem taken_append (first second : Deeds) :
    taken (first ++ second) = taken first ++ taken second :=
  List.filterMap_append

@[simp] theorem finished_append (first second : Deeds) :
    finished (first ++ second) = finished first ++ finished second :=
  List.filterMap_append

@[simp] theorem machinesFor_append (first second : Deeds) (ticket : Nat) :
    machinesFor (first ++ second) ticket =
      machinesFor first ticket ++ machinesFor second ticket :=
  List.filterMap_append

@[simp] theorem received_singleton (deed : Deed) : received [deed] = deed.received?.toList := by
  cases deed <;> rfl

@[simp] theorem enqueued_singleton (deed : Deed) : enqueued [deed] = deed.enqueued?.toList := by
  cases deed <;> rfl

@[simp] theorem taken_singleton (deed : Deed) : taken [deed] = deed.taken?.toList := by
  cases deed <;> rfl

@[simp] theorem finished_singleton (deed : Deed) : finished [deed] = deed.finished?.toList := by
  cases deed <;> rfl

@[simp] theorem machinesFor_singleton (deed : Deed) (ticket : Nat) :
    machinesFor [deed] ticket = (deed.machineFor? ticket).toList := by
  rw [machinesFor, List.filterMap_cons]
  cases deed.machineFor? ticket <;> rfl

/-- What no worker is behind takes no job off the queue. -/
theorem taken_eq_nil
    {deeds : Deeds}
    (idle : ∀ deed ∈ deeds, deed.isWork = false) :
    taken deeds = [] := by
  unfold taken
  rw [List.filterMap_eq_nil_iff]
  intro deed member
  cases deed with
  | take index submission =>
      cases idle _ member
  | _ =>
      rfl

/-- What no worker is behind finishes no job. -/
theorem finished_eq_nil
    {deeds : Deeds}
    (idle : ∀ deed ∈ deeds, deed.isWork = false) :
    finished deeds = [] := by
  unfold finished
  rw [List.filterMap_eq_nil_iff]
  intro deed member
  cases deed with
  | finish index submission outcome =>
      cases idle _ member
  | _ =>
      rfl

/-- What a worker is behind is not among what no worker is behind. -/
theorem mem_of_isWork
    {deeds more : Deeds}
    {deed : Deed}
    (idle : ∀ deed ∈ more, deed.isWork = false)
    (work : deed.isWork = true)
    (member : deed ∈ deeds ++ more) :
    deed ∈ deeds := by
  rcases List.mem_append.1 member with earlier | added
  · exact earlier
  · rw [idle deed added] at work
    cases work

/-- A job is finished by a worker exactly when the worker has come to some outcome. -/
theorem mem_finished
    {deeds : Deeds}
    {index : Nat}
    {submission : Submission} :
    (index, submission) ∈ finished deeds ↔
      ∃ outcome, Deed.finish index submission outcome ∈ deeds := by
  unfold finished
  rw [List.mem_filterMap]
  constructor
  · rintro ⟨deed, member, extracts⟩
    cases deed <;> simp only [Deed.finished?, reduceCtorEq, Option.some.injEq,
      Prod.mk.injEq] at extracts
    obtain ⟨rfl, rfl⟩ := extracts
    exact ⟨_, member⟩
  · rintro ⟨outcome, member⟩
    exact ⟨_, member, rfl⟩

/-- A job that is finished was finished before, if none is now. -/
theorem mem_of_finish
    {deeds more : Deeds}
    {index : Nat}
    {submission : Submission}
    {outcome : Outcome}
    (none : finished more = [])
    (member : Deed.finish index submission outcome ∈ deeds ++ more) :
    Deed.finish index submission outcome ∈ deeds := by
  rcases List.mem_append.1 member with earlier | added
  · exact earlier
  · have now : (index, submission) ∈ finished more := mem_finished.2 ⟨outcome, added⟩
    rw [none] at now
    cases now

/-- A job that no step was made for was not brought further on any machine. -/
theorem machinesFor_eq_nil
    {deeds : Deeds}
    {ticket : Nat}
    (untouched : ∀ index submission machine,
      Deed.compile index submission machine ∈ deeds → submission.ticket ≠ ticket) :
    machinesFor deeds ticket = [] := by
  unfold machinesFor
  rw [List.filterMap_eq_nil_iff]
  intro deed member
  cases deed with
  | compile index submission machine =>
      simp [Deed.machineFor?, untouched index submission machine member]
  | _ =>
      rfl

end Deeds

namespace Service

/-- What a move does for requests and jobs. -/
def deeds (service : Service) : Move → Deeds
  | .receive request => [.receive request]
  | .attend ticket =>
    match service.exchange? ticket with
    | some ⟨ticket, _, .submit job⟩ =>
      if service.hasReceiver then [.enqueue ⟨ticket, job⟩] else []
    | _ => []
  | .work index =>
    match service.seats[index]? with
    | some ⟨.compile, .idle⟩ => (service.queue.head?.map (Deed.take index)).toList
    | some ⟨_, .busy ticket compilation⟩ =>
      match compilation.outcome? with
      | some outcome => [.finish index ⟨ticket, compilation.job⟩ outcome]
      | none => [.compile index ⟨ticket, compilation.job⟩ service.machine]
    | _ => []
  | _ => []

/-- What the moves of a run do for requests and jobs, as long as they can be made. -/
def history : Service → List Move → Deeds
  | _, [] => []
  | service, move :: rest =>
    match service.step? move with
    | some next => service.deeds move ++ next.history rest
    | none => []

end Service

namespace Compilation

/-- A job brought further on one machine after the other, as the machine is found at each
step. -/
def follow (host : Host) (compilation : Compilation) (machines : List Machine) :
    Option Compilation :=
  machines.foldlM (fun current machine => (current.step host machine).map Stepped.compilation)
    compilation

/-- A last step continues what was followed before. -/
theorem follow_snoc
    {host : Host}
    {compilation current : Compilation}
    {machines : List Machine}
    {machine : Machine}
    {stepped : Stepped}
    (followed : compilation.follow host machines = some current)
    (next : current.step host machine = some stepped) :
    compilation.follow host (machines ++ [machine]) = some stepped.compilation := by
  unfold follow at followed ⊢
  rw [List.foldlM_append, followed]
  simp [next]

end Compilation

end CompilePlayground
