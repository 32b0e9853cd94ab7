import CompilePlayground.Proofs.Service.Courses

namespace CompilePlayground

open Posix

/-!
# Who writes to the log

The log is only ever added to. What is added by a move comes from the parts of the program that the
move has to do with: the words of the browser's extension are written when it sends a message, and
by nothing else that happens.
-/

/-- Events are added to a log, by some parts of the program and no others. -/
def Adds (origins : List Origin) (before after : List LogEvent) : Prop :=
  ∃ added, after = before ++ added ∧ ∀ event ∈ added, event.origin ∈ origins

namespace Adds

variable {origins more : List Origin} {before after : List LogEvent}

theorem of_eq (same : after = before) : Adds origins before after :=
  ⟨[], by rw [same, List.append_nil], nofun⟩

theorem of_append
    {added : List LogEvent}
    (written : ∀ event ∈ added, event.origin ∈ origins) :
    Adds origins before (before ++ added) :=
  ⟨added, rfl, written⟩

/-- Nothing is added. -/
theorem of_append_nil : Adds origins before (before ++ []) :=
  of_append (List.forall_mem_nil _)

/-- One event is added. -/
theorem of_concat {event : LogEvent} (own : event.origin ∈ origins) :
    Adds origins before (before ++ [event]) := by
  refine of_append fun other member => ?_
  rw [List.mem_singleton.1 member]
  exact own

/-- What is written by some parts of the program is written by more of them. -/
theorem mono (adds : Adds origins before after) (wider : origins ⊆ more) :
    Adds more before after := by
  obtain ⟨added, same, written⟩ := adds
  exact ⟨added, same, fun event member => wider (written event member)⟩

/-- What a part of the program says can be told from the log when the others write to it. -/
theorem filter_eq
    (adds : Adds origins before after)
    {origin : Origin}
    (other : origin ∉ origins) :
    after.filter (·.origin = origin) = before.filter (·.origin = origin) := by
  obtain ⟨added, rfl, written⟩ := adds
  have none : added.filter (·.origin = origin) = [] := by
    rw [List.filter_eq_nil_iff]
    intro event member own
    rw [← of_decide_eq_true own] at other
    exact other (written event member)
  rw [List.filter_append, none, List.append_nil]

end Adds

namespace Compilation

variable {host : Host} {compilation : Compilation} {machine : Machine} {stepped : Stepped}

/-- What is said of a job that cannot go on comes from the compiler's part of the program. -/
theorem origin_of_fail
    {cause : IoError}
    (failed : compilation.fail cause machine = some stepped) :
    ∀ said ∈ stepped.events, said.origin = .compiler := by
  unfold fail at failed
  split at failed
  all_goals
    cases failed
    try simp [quietly, event, LogEvent.plain]

/-- What is said of a job comes from the compiler's part of the program. -/
theorem origin_of_step
    (made : compilation.step host machine = some stepped) :
    ∀ said ∈ stepped.events, said.origin = .compiler := by
  unfold step at made
  repeat' split at made
  all_goals
    first
    | exact origin_of_fail made
    | cases made <;> simp [quietly, event, LogEvent.plain]

end Compilation

namespace Worker

theorem origin_of_finish {index : Nat} {job : Job} {outcome : Outcome} {isGone : Bool} :
    ∀ said ∈ afterwards index job outcome ++ [replied index job isGone],
      said.origin = .worker := by
  cases outcome <;> cases isGone <;> simp [afterwards, failed, replied, event, LogEvent.plain]

end Worker

namespace Service

variable {service next : Service} {occurrence : Occurrence}

theorem origin_of_failure (failure : ServiceFailure) :
    ∀ event ∈ (Endpoint.Answer.failure failure).events, event.origin ∈ [Origin.failures] := by
  intro event member
  rw [List.mem_singleton.1 member, ServiceFailure.event]
  split <;> exact List.mem_singleton_self _

/-- Going on with a request writes nothing but that it is refused. -/
theorem adds_attend?
    {ticket : Nat}
    (made : service.attend? ticket = some next) :
    Adds [.failures] service.events next.events := by
  unfold attend? at made
  split at made
  · cases made
  next exchange _ =>
    split at made
    · cases made
      unfold submit
      split
      · exact .of_eq rfl
      · exact .of_append (origin_of_failure _)
    · obtain ⟨delivery, _, rfl⟩ := Option.map_eq_some_iff.1 made
      cases delivery with
      | report report =>
          exact .of_append_nil
      | nothing =>
          exact .of_append (origin_of_failure _)
    · unfold inquire? at made
      split at made
      · cases made
        exact .of_append_nil
      · cases made
      · split at made
        · cases made
          exact .of_eq rfl
        · cases made
          exact .of_append (origin_of_failure _)
    · unfold listen? at made
      split at made
      · cases made
        exact .of_eq rfl
      · obtain ⟨status, _, rfl⟩ := Option.map_eq_some_iff.1 made
        unfold conclude
        split
        · exact .of_append_nil
        · exact .of_append (origin_of_failure _)

/-- A worker writes of itself and of its job. -/
theorem adds_work?
    {index : Nat}
    (made : service.work? index = some next) :
    Adds [.worker, .compiler] service.events next.events := by
  unfold work? at made
  split at made
  · cases made
  next seat _ =>
    split at made
    · cases made
    · unfold compile? at made
      split at made
      next ticket compilation _ _ outcome _ =>
        cases made
        obtain ⟨_, shape⟩ :=
          deliver_eq (service.occupy index .idle) ticket (.report (Worker.report outcome))
        unfold finish
        rw [shape]
        refine .of_append fun said member => ?_
        rw [Worker.origin_of_finish said member]
        exact List.mem_cons_self
      next =>
        obtain ⟨stepped, steps, rfl⟩ := Option.map_eq_some_iff.1 made
        refine .of_append fun said member => ?_
        rw [Compilation.origin_of_step steps said member]
        exact List.mem_cons_of_mem _ List.mem_cons_self
    · split at made
      next submission rest _ =>
        cases made
        unfold take
        split
        · exact .of_concat List.mem_cons_self
        · obtain ⟨_, shape⟩ := deliver_eq { service with queue := rest } submission.ticket .nothing
          rw [shape]
          exact .of_eq rfl
      next =>
        split at made
        · cases made
        · cases made
          unfold stop
          split
          · exact .of_concat List.mem_cons_self
          · exact .of_eq rfl

/-- Where no request comes in, nothing is written but by workers and of requests that are
refused. -/
theorem adds_occur?
    (quiet : occurrence.request? = none)
    (made : service.occur? occurrence = some next) :
    Adds [.failures, .worker, .compiler] service.events next.events := by
  cases occurrence with
  | change machine =>
      cases made
      exact .of_eq rfl
  | move move =>
      cases move with
      | receive request =>
          cases quiet
      | attend ticket =>
          exact (adds_attend? made).mono (by simp)
      | leave ticket =>
          obtain ⟨exchange, _, rfl⟩ := Option.map_eq_some_iff.1 made
          unfold giveUp
          split <;> exact .of_eq rfl
      | work index =>
          exact (adds_work? made).mono (by simp)
      | run process =>
          obtain ⟨machine, _, rfl⟩ := Option.map_eq_some_iff.1 made
          exact .of_eq rfl
      | wait moment =>
          cases made
          exact .of_eq rfl
      | close =>
          simp only [occur?, step?, Option.ite_none_right_eq_some, Option.some.injEq] at made
          rw [← made.2]
          exact .of_eq rfl

end Service

end CompilePlayground
