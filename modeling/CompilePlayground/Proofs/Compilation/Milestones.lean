import CompilePlayground.Proofs.Service.Deeds
import CompilePlayground.Proofs.Text.Decoding
import CompilePlayground.Worker

namespace CompilePlayground

open Posix

/-!
# Milestones of a job

What comes of a job is decided by what the machine answers on its way: whether the compiler could
be started, how it ended or that it did not, and what it wrote. These milestones are read off the
machines that the job was brought further on. There are only a few tales that they can tell, and
each has one outcome.
-/

/-- What the machine answers to a step for a job, as far as the outcome depends on it. -/
inductive Milestone where
  | started (process : Nat)
  | exited (status : ExitStatus)
  | overdue
  | read (bytes : Bytes)
  | refused (failure : CompileFailure)
  deriving Repr, DecidableEq

/-- What comes of a job when the next thing cannot be done. That its directory cannot be removed
does not matter. -/
def Stage.failure? (cause : IoError) : Stage → Option CompileFailure
  | .makeDirectory => some (.directory cause)
  | .writeSource => some (.source cause)
  | .openOutput => some (.output cause)
  | .launch _ => some (.launch cause)
  | .await _ _ => some (.wait cause)
  | .readOutput _ => some (.output cause)
  | .clear _ => none
  | .done _ => none

namespace Compilation

/-- What the machine answers to what is to be done next for a job. -/
def milestone? (host : Host) (compilation : Compilation) (machine : Machine) :
    Option Milestone :=
  let refused (cause : IoError) : Option Milestone :=
    (compilation.stage.failure? cause).map .refused
  match compilation.stage with
  | .makeDirectory =>
    match machine.createDirectories host compilation.directory with
    | .ok _ => none
    | .error cause => refused cause
  | .writeSource =>
    match machine.fillFile host (compilation.fileName sourceName) compilation.job.source with
    | .ok _ => none
    | .error cause => refused cause
  | .openOutput =>
    match machine.openEmptied host (compilation.fileName outputName) with
    | .ok _ => none
    | .error cause => refused cause
  | .launch output =>
    match machine.spawn host (compilation.command output) with
    | .ok (process, _) => some (.started process)
    | .error cause => refused cause
  | .await process deadline =>
    match machine.poll process with
    | .ok (some status) => some (.exited status)
    | .ok none => if isOver machine deadline then some .overdue else none
    | .error cause => refused cause
  | .readOutput _ =>
    match machine.fileBytes host (compilation.fileName outputName) with
    | .ok bytes => some (.read bytes)
    | .error cause => refused cause
  | .clear _ => none
  | .done _ => none

/-- The milestones of a job that is brought further on one machine after the other. -/
def milestones (host : Host) : Compilation → List Machine → List Milestone
  | _, [] => []
  | compilation, machine :: rest =>
    match compilation.step host machine with
    | some stepped =>
      (compilation.milestone? host machine).toList ++ milestones host stepped.compilation rest
    | none => []

end Compilation

/-- The tales that milestones can tell, each with the outcome that it has. -/
inductive Tale (timeout : Time.Span) : List Milestone → Outcome → Prop where
  | unstarted
      (failure : CompileFailure) :
      Tale timeout [.refused failure] (.error failure)
  | unawaited
      (process : Nat)
      (cause : IoError) :
      Tale timeout [.started process, .refused (.wait cause)] (.error (.wait cause))
  | ended
      (process : Nat)
      (status : ExitStatus)
      (bytes : Bytes) :
      Tale timeout [.started process, .exited status, .read bytes]
        (.ok ⟨Compilation.verdictOf status,
          Compilation.outputText timeout (Compilation.verdictOf status) bytes⟩)
  | endedUnread
      (process : Nat)
      (status : ExitStatus)
      (cause : IoError) :
      Tale timeout [.started process, .exited status, .refused (.output cause)]
        (.error (.output cause))
  | killed
      (process : Nat)
      (bytes : Bytes) :
      Tale timeout [.started process, .overdue, .read bytes]
        (.ok ⟨.timedOut, Compilation.outputText timeout .timedOut bytes⟩)
  | killedUnread
      (process : Nat)
      (cause : IoError) :
      Tale timeout [.started process, .overdue, .refused (.output cause)]
        (.error (.output cause))

namespace Compilation

/-- The milestones that lie behind a job at each stage. -/
inductive Sofar (timeout : Time.Span) : Stage → List Milestone → Prop where
  | makeDirectory :
      Sofar timeout .makeDirectory []
  | writeSource :
      Sofar timeout .writeSource []
  | openOutput :
      Sofar timeout .openOutput []
  | launch
      (output : Nat) :
      Sofar timeout (.launch output) []
  | await
      (process deadline : Nat) :
      Sofar timeout (.await process deadline) [.started process]
  | ended
      (process : Nat)
      (status : ExitStatus) :
      Sofar timeout (.readOutput (verdictOf status)) [.started process, .exited status]
  | killed
      (process : Nat) :
      Sofar timeout (.readOutput .timedOut) [.started process, .overdue]
  | clear
      (milestones : List Milestone)
      (outcome : Outcome)
      (tale : Tale timeout milestones outcome) :
      Sofar timeout (.clear outcome) milestones
  | done
      (milestones : List Milestone)
      (outcome : Outcome)
      (tale : Tale timeout milestones outcome) :
      Sofar timeout (.done outcome) milestones

variable {host : Host} {compilation current : Compilation} {machine : Machine}
  {machines : List Machine} {stepped : Stepped} {before : List Milestone}

theorem settings_of_step
    (made : compilation.step host machine = some stepped) :
    stepped.compilation.settings = compilation.settings := by
  obtain ⟨_, shape⟩ := step_keeps made
  rw [shape]
  rfl

theorem settings_of_follow
    (followed : compilation.follow host machines = some current) :
    current.settings = compilation.settings := by
  induction machines generalizing compilation with
  | nil =>
      cases followed
      rfl
  | cons machine rest inductionHypothesis =>
      unfold Compilation.follow at followed
      rw [List.foldlM_cons, Option.bind_eq_bind, Option.bind_eq_some_iff] at followed
      obtain ⟨_, made, onward⟩ := followed
      obtain ⟨stepped, step, rfl⟩ := Option.map_eq_some_iff.1 made
      exact (inductionHypothesis onward).trans (settings_of_step step)

/-- A tale ends with the first thing that cannot be done. -/
theorem Sofar.fail
    {timeout : Time.Span}
    {cause : IoError}
    {failure : CompileFailure}
    (sofar : Sofar timeout compilation.stage before)
    (made : compilation.fail cause machine = some stepped)
    (fails : compilation.stage.failure? cause = some failure) :
    Sofar timeout stepped.compilation.stage (before ++ [.refused failure]) := by
  unfold Compilation.fail at made
  generalize compilation.stage = stage at sofar made fails
  cases sofar with
  | makeDirectory =>
      cases made
      cases fails
      exact .done _ _ (.unstarted _)
  | writeSource | openOutput | launch =>
      cases made
      cases fails
      exact .clear _ _ (.unstarted _)
  | await =>
      cases made
      cases fails
      exact .clear _ _ (.unawaited _ _)
  | ended =>
      cases made
      cases fails
      exact .clear _ _ (.endedUnread _ _ _)
  | killed =>
      cases made
      cases fails
      exact .clear _ _ (.killedUnread _ _)
  | clear | done =>
      cases fails

/-- A step goes on with the tale. -/
theorem Sofar.step
    (sofar : Sofar compilation.settings.timeout compilation.stage before)
    (made : compilation.step host machine = some stepped) :
    Sofar compilation.settings.timeout stepped.compilation.stage
      (before ++ (compilation.milestone? host machine).toList) := by
  have fails {cause : IoError} {machine : Machine} :=
    @Sofar.fail compilation machine stepped before compilation.settings.timeout cause
  unfold Compilation.step at made
  unfold milestone?
  generalize stands : compilation.stage = stage at sofar made fails ⊢
  cases sofar with
  | makeDirectory =>
      cases created : machine.createDirectories host compilation.directory with
      | ok next =>
          simp only [created] at made ⊢
          cases made
          exact .writeSource
      | error cause =>
          simp only [created] at made ⊢
          exact fails .makeDirectory made rfl
  | writeSource =>
      cases written : machine.fillFile host (compilation.fileName sourceName)
          compilation.job.source with
      | ok next =>
          simp only [written] at made ⊢
          cases made
          exact .openOutput
      | error cause =>
          simp only [written] at made ⊢
          exact fails .writeSource made rfl
  | openOutput =>
      cases opened : machine.openEmptied host (compilation.fileName outputName) with
      | ok found =>
          simp only [opened] at made ⊢
          cases made
          exact .launch _
      | error cause =>
          simp only [opened] at made ⊢
          exact fails .openOutput made rfl
  | launch output =>
      cases started : machine.spawn host (compilation.command output) with
      | ok found =>
          simp only [started] at made ⊢
          cases made
          exact .await _ _
      | error cause =>
          simp only [started] at made ⊢
          exact fails (.launch _) made rfl
  | await process deadline =>
      cases polled : machine.poll process with
      | error cause =>
          simp only [polled] at made ⊢
          exact fails (.await _ _) made rfl
      | ok status? =>
          cases status? with
          | some status =>
              simp only [polled] at made ⊢
              cases made
              exact .ended _ _
          | none =>
              simp only [polled] at made ⊢
              cases late : isOver machine deadline with
              | true =>
                  simp only [late, if_true] at made ⊢
                  cases made
                  exact .killed _
              | false =>
                  simp only [late, Bool.false_eq_true, if_false] at made
                  cases made
  | ended process status =>
      cases wrote : machine.fileBytes host (compilation.fileName outputName) with
      | ok bytes =>
          simp only [wrote] at made ⊢
          cases made
          exact .clear _ _ (.ended _ _ _)
      | error cause =>
          simp only [wrote] at made ⊢
          exact fails (.ended _ _) made rfl
  | killed process =>
      cases wrote : machine.fileBytes host (compilation.fileName outputName) with
      | ok bytes =>
          simp only [wrote] at made ⊢
          cases made
          exact .clear _ _ (.killed _ _)
      | error cause =>
          simp only [wrote] at made ⊢
          exact fails (.killed _) made rfl
  | clear milestones outcome tale =>
      simp only [Option.toList_none, List.append_nil] at made ⊢
      split at made
      · cases made
        exact .done _ _ tale
      · unfold Compilation.fail at made
        simp only [stands] at made
        cases made
        exact .done _ _ tale
  | done milestones outcome tale =>
      cases made

/-- The tale that has been told at each moment. -/
theorem Sofar.follow
    (sofar : Sofar compilation.settings.timeout compilation.stage before)
    (followed : compilation.follow host machines = some current) :
    Sofar compilation.settings.timeout current.stage
      (before ++ milestones host compilation machines) := by
  induction machines generalizing compilation before with
  | nil =>
      cases followed
      rw [milestones, List.append_nil]
      exact sofar
  | cons machine rest inductionHypothesis =>
      unfold Compilation.follow at followed
      rw [List.foldlM_cons, Option.bind_eq_bind, Option.bind_eq_some_iff] at followed
      obtain ⟨_, made, onward⟩ := followed
      obtain ⟨stepped, step, rfl⟩ := Option.map_eq_some_iff.1 made
      have settings := settings_of_step step
      have later := sofar.step step
      rw [← settings] at later ⊢
      rw [milestones, step]
      simp only
      rw [← List.append_assoc]
      exact inductionHypothesis later onward

/-- A job that all has been done for has one of the tales. -/
theorem tale_of_follow
    {settings : CompilerSettings}
    {job : Job}
    {outcome : Outcome}
    (followed : (begin settings job).follow host machines = some current)
    (ended : current.outcome? = some outcome) :
    Tale settings.timeout (milestones host (begin settings job) machines) outcome := by
  have sofar := (Sofar.makeDirectory : Sofar (begin settings job).settings.timeout _ _).follow
    followed
  unfold outcome? at ended
  split at ended
  next stage =>
    cases ended
    rw [stage] at sofar
    cases sofar with
    | done _ _ tale =>
        exact tale
  next =>
    cases ended

end Compilation

namespace Tale

variable {timeout : Time.Span} {milestones : List Milestone} {outcome : Outcome}

/-- A job succeeds only if its compiler was started and ended well in time, and its output could
be read. -/
theorem succeeded_iff (tale : Tale timeout milestones outcome) :
    (Worker.report outcome).succeeded = true ↔
      ∃ process bytes, milestones = [.started process, .exited (.code 0), .read bytes] := by
  cases tale with
  | ended process status bytes =>
      have verdict : Compilation.verdictOf status = .succeeded ↔ status = .code 0 := by
        rcases status with (_ | code) | number <;> simp [Compilation.verdictOf]
      simp [Worker.report, Report.succeeded, verdict]
  | unstarted | unawaited | endedUnread | killed | killedUnread =>
      simp [Worker.report, Report.succeeded]

/-- What a compiler that ended in time has written is the output of its job. -/
theorem output_of_ended
    {process : Nat}
    {status : ExitStatus}
    {bytes : Bytes}
    (tale : Tale timeout [.started process, .exited status, .read bytes] outcome) :
    (Worker.report outcome).output = Text.Utf8.decodeLossy bytes := by
  cases tale with
  | ended =>
      rcases status with (_ | code) | number <;> rfl

/-- What could not be done is what comes of a job. -/
theorem outcome_of_refused
    {failure : CompileFailure}
    (tale : Tale timeout milestones outcome)
    (refused : .refused failure ∈ milestones) :
    outcome = .error failure := by
  cases tale <;> simp at refused <;> rw [refused]

end Tale

end CompilePlayground
