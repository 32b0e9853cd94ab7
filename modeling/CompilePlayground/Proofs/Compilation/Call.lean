import CompilePlayground.Compilation
import CompilePlayground.Proofs.Posix.Hosting

namespace CompilePlayground

open Posix

/-!
# Calls of the compiler on a system that may refuse anything

A `Call` is a job on its way together with the machine and with the directory that the compiler
was started in. The system may refuse whatever the call asks for, and the compiler changes what
it likes below its directory while it runs. A run is told by its happenings: which stage the call
has acted at, and what the system refused then.
-/

namespace Posix.Disk

/-- A disk on which something happened below a place, and nowhere else. -/
structure ChangedBelow (place : Path) (before after : Disk) : Prop where
  outside : SameOutside place before after
  stays : after.node? place = before.node? place

/-- Nothing has happened anywhere. -/
theorem ChangedBelow.refl (place : Path) (disk : Disk) : ChangedBelow place disk disk :=
  ⟨⟨fun _ _ => rfl, fun _ _ _ _ => rfl⟩, rfl⟩

end Posix.Disk

/-- The error of a request that was refused. -/
def refusal? {α : Type} : Except IoError α → Option IoError
  | .ok _ => none
  | .error cause => some cause

namespace Compilation

/-- What the system refuses when a job goes on, if it refuses anything. -/
def refused? (host : Host) (compilation : Compilation) (machine : Machine) : Option IoError :=
  match compilation.stage with
  | .makeDirectory => refusal? (machine.createDirectories host compilation.directory)
  | .writeSource =>
    refusal?
      (machine.fillFile host (compilation.fileName sourceName) compilation.job.source)
  | .openOutput => refusal? (machine.openEmptied host (compilation.fileName outputName))
  | .launch output => refusal? (machine.spawn host (compilation.command output))
  | .await process _ => refusal? (machine.poll process)
  | .readOutput _ => refusal? (machine.fileBytes host (compilation.fileName outputName))
  | .clear _ => refusal? (machine.removeTree host compilation.directory)
  | .done _ => none

/-- What a request that was refused may have done nevertheless: some directories above are there,
a file holds other bytes than it should, or part of what was to be removed is gone. -/
def Leaves (host : Host) (compilation : Compilation) (machine left : Machine) : Prop :=
  match compilation.stage with
  | .makeDirectory =>
    ∃ disk,
      Disk.Interrupted machine.disk host.directory compilation.directory disk ∧
        left = machine.withDisk disk
  | .writeSource =>
    left = machine ∨
      ∃ bytes, machine.fillFile host (compilation.fileName sourceName) bytes = .ok left
  | .openOutput =>
    left = machine ∨
      ∃ output, machine.openEmptied host (compilation.fileName outputName) = .ok (output, left)
  | .clear _ => True
  | _ => left = machine

theorem isPlain_sourceName : Path.IsPlain (Text.Utf8.encode sourceName)  := by
  decide

theorem isPlain_outputName : Path.IsPlain (Text.Utf8.encode outputName)  := by
  decide

@[simp] theorem directory_atStage (compilation : Compilation) (stage : Stage) :
    (compilation.atStage stage).directory = compilation.directory :=
  rfl

@[simp] theorem stage_atStage (compilation : Compilation) (stage : Stage) :
    (compilation.atStage stage).stage = stage :=
  rfl

end Compilation

/-- A job on its way, the machine, and the directory that its compiler was started in. -/
structure Call where
  compilation : Compilation
  machine : Machine
  home? : Option Path

/-- What happens in a run of a call: the call acts at some stage, where the system may refuse
what it asks for, or something else happens. -/
inductive Happening where
  | act (stage : Stage) (refused? : Option IoError)
  | meanwhile

namespace Call

/-- A job that nothing has been done for yet. -/
def begin (settings : CompilerSettings) (job : Job) (machine : Machine) : Call :=
  ⟨Compilation.begin settings job, machine, none⟩

/-- The directory that the compiler was started in, after a step. -/
def homeAfter (host : Host) (call : Call) : Option Path :=
  match call.compilation.stage with
  | .launch output =>
    (call.machine.directoryOf host (call.compilation.command output)).toOption
  | _ => call.home?

/-- A call after a step of its own. -/
def act? (host : Host) (call : Call) : Option Call :=
  (call.compilation.step host call.machine).map fun stepped =>
    ⟨stepped.compilation, stepped.machine, call.homeAfter host⟩

/-- What the machine may be when something else has happened. Only the compiler changes the disk,
below the directory that it was started in and as long as it is waited for. -/
def Allows (call : Call) (next : Machine) : Prop :=
  match call.compilation.stage with
  | .await _ _ =>
    ∃ home, call.home? = some home ∧ Disk.ChangedBelow home call.machine.disk next.disk
  | _ => next.disk = call.machine.disk

/-- One step of a run. -/
inductive Next (host : Host) : Call → Happening → Call → Prop where
  | act
      {call next : Call}
      (made : call.act? host = some next) :
      Next host call
        (.act call.compilation.stage (call.compilation.refused? host call.machine)) next
  | refuse
      {call : Call}
      {cause : IoError}
      {left : Machine}
      {stepped : Stepped}
      (leaves : call.compilation.Leaves host call.machine left)
      (failed : call.compilation.fail cause left = some stepped) :
      Next host call (.act call.compilation.stage (some cause))
        ⟨stepped.compilation, stepped.machine, call.home?⟩
  | meanwhile
      {call : Call}
      {machine : Machine}
      (allowed : call.Allows machine) :
      Next host call .meanwhile { call with machine }

/-- A run, with what has happened in it. -/
inductive Run (host : Host) : Call → List Happening → Call → Prop where
  | nil
      (call : Call) :
      Run host call [] call
  | snoc
      {first call last : Call}
      {history : List Happening}
      {happening : Happening}
      (run : Run host first history call)
      (next : Next host call happening last) :
      Run host first (history ++ [happening]) last

/-- What a call has become when the system has done what it asked for. -/
inductive Succeeds (host : Host) (call : Call) : Call → Prop where
  | makeDirectory
      {next : Machine}
      (stage : call.compilation.stage = .makeDirectory)
      (made : call.machine.createDirectories host call.compilation.directory = .ok next) :
      Succeeds host call ⟨call.compilation.atStage .writeSource, next, call.home?⟩
  | writeSource
      {next : Machine}
      (stage : call.compilation.stage = .writeSource)
      (filled : call.machine.fillFile host
        (call.compilation.fileName Compilation.sourceName) call.compilation.job.source =
          .ok next) :
      Succeeds host call ⟨call.compilation.atStage .openOutput, next, call.home?⟩
  | openOutput
      {output : Nat}
      {next : Machine}
      (stage : call.compilation.stage = .openOutput)
      (opened : call.machine.openEmptied host
        (call.compilation.fileName Compilation.outputName) = .ok (output, next)) :
      Succeeds host call ⟨call.compilation.atStage (.launch output), next, call.home?⟩
  | launch
      {output process deadline : Nat}
      {next : Machine}
      (stage : call.compilation.stage = .launch output)
      (spawned : call.machine.spawn host (call.compilation.command output) =
        .ok (process, next)) :
      Succeeds host call
        ⟨call.compilation.atStage (.await process deadline), next,
          (call.machine.directoryOf host (call.compilation.command output)).toOption⟩
  | await
      {process deadline : Nat}
      {verdict : Verdict}
      {next : Machine}
      (stage : call.compilation.stage = .await process deadline)
      (same : next.disk = call.machine.disk) :
      Succeeds host call ⟨call.compilation.atStage (.readOutput verdict), next, call.home?⟩
  | readOutput
      {verdict : Verdict}
      {report : Report}
      (stage : call.compilation.stage = .readOutput verdict) :
      Succeeds host call
        ⟨call.compilation.atStage (.clear (.ok report)), call.machine, call.home?⟩
  | clear
      {outcome : Outcome}
      {next : Machine}
      (stage : call.compilation.stage = .clear outcome)
      (removed : call.machine.removeTree host call.compilation.directory = .ok next) :
      Succeeds host call ⟨call.compilation.atStage (.done outcome), next, call.home?⟩

/-- What has come of a call that acted. -/
inductive Acts (host : Host) (call : Call) : Option IoError → Call → Prop where
  | succeeds
      {last : Call}
      (succeeds : Succeeds host call last) :
      Acts host call none last
  | fails
      {cause : IoError}
      {left : Machine}
      {stepped : Stepped}
      {home? : Option Path}
      (leaves : call.compilation.Leaves host call.machine left)
      (failed : call.compilation.fail cause left = some stepped) :
      Acts host call (some cause) ⟨stepped.compilation, stepped.machine, home?⟩

end Call

namespace Compilation

/-- A request that was refused may have done nothing. -/
theorem leaves_self (host : Host) (compilation : Compilation) (machine : Machine) :
    compilation.Leaves host machine machine := by
  unfold Leaves
  cases compilation.stage with
  | makeDirectory =>
      exact ⟨machine.disk, .first _, rfl⟩
  | writeSource | openOutput =>
      exact .inl rfl
  | launch | await | readOutput | done =>
      rfl
  | clear =>
      trivial

/-- Where a job goes on after a refusal. -/
inductive Fails (compilation : Compilation) (cause : IoError) : Stage → Prop where
  | makeDirectory
      (stage : compilation.stage = .makeDirectory) :
      Fails compilation cause (.done (.error (.directory cause)))
  | clear
      {outcome : Outcome}
      (stage : compilation.stage = .clear outcome) :
      Fails compilation cause (.done outcome)
  | within
      {failure : CompileFailure}
      (begun : compilation.stage ≠ .makeDirectory)
      (uncleared : ∀ outcome, compilation.stage ≠ .clear outcome)
      (unfinished : ∀ outcome, compilation.stage ≠ .done outcome) :
      Fails compilation cause (.clear (.error failure))

/-- A job that was refused something goes on, and the disk stays as the refusal has left it. -/
theorem fails_of_fail
    {compilation : Compilation}
    {cause : IoError}
    {left : Machine}
    {stepped : Stepped}
    (failed : compilation.fail cause left = some stepped) :
    Fails compilation cause stepped.compilation.stage ∧ stepped.machine.disk = left.disk := by
  unfold fail at failed
  cases stage : compilation.stage with
  | makeDirectory =>
      rw [stage] at failed
      cases failed
      exact ⟨.makeDirectory stage, rfl⟩
  | clear outcome =>
      rw [stage] at failed
      cases failed
      exact ⟨.clear stage, rfl⟩
  | done outcome =>
      rw [stage] at failed
      cases failed
  | writeSource | openOutput | launch | await | readOutput =>
      rw [stage] at failed
      cases failed
      exact ⟨.within (by simp [stage]) (by simp [stage]) (by simp [stage]), rfl⟩

end Compilation

namespace Call

variable {host : Host} {call next : Call} {refused? : Option IoError}

/-- A call that acts gets what it asks for, or goes on after a refusal. -/
theorem acts_of_act?
    (made : call.act? host = some next) :
    Acts host call (call.compilation.refused? host call.machine) next := by
  obtain ⟨stepped, steps, rfl⟩ := Option.map_eq_some_iff.1 made
  unfold Compilation.step at steps
  unfold Compilation.refused? homeAfter
  cases stage : call.compilation.stage with
  | makeDirectory =>
      simp only [stage] at steps ⊢
      split at steps
      next machine ok =>
        cases steps
        rw [ok]
        exact .succeeds (.makeDirectory stage ok)
      next cause failed =>
        rw [failed]
        refine .fails ?_ steps
        unfold Compilation.Leaves
        rw [stage]
        exact Machine.interrupted_afterFailedDirectories failed
  | writeSource =>
      simp only [stage] at steps ⊢
      split at steps
      next machine ok =>
        cases steps
        rw [ok]
        exact .succeeds (.writeSource stage ok)
      next cause failed =>
        rw [failed]
        exact .fails (Compilation.leaves_self host _ _) steps
  | openOutput =>
      simp only [stage] at steps ⊢
      split at steps
      next output machine ok =>
        cases steps
        rw [ok]
        exact .succeeds (.openOutput stage ok)
      next cause failed =>
        rw [failed]
        exact .fails (Compilation.leaves_self host _ _) steps
  | launch output =>
      simp only [stage] at steps ⊢
      split at steps
      next process machine ok =>
        cases steps
        rw [ok]
        exact .succeeds (.launch stage ok)
      next cause failed =>
        rw [failed]
        exact .fails (Compilation.leaves_self host _ _) steps
  | await process deadline =>
      simp only [stage] at steps ⊢
      split at steps
      next cause failed =>
        rw [failed]
        exact .fails (Compilation.leaves_self host _ _) steps
      next status ok =>
        cases steps
        rw [ok]
        exact .succeeds (.await stage rfl)
      next ok =>
        split at steps
        · cases steps
          rw [ok]
          exact .succeeds (.await stage rfl)
        · cases steps
  | readOutput verdict =>
      simp only [stage] at steps ⊢
      split at steps
      next bytes ok =>
        cases steps
        rw [ok]
        exact .succeeds (.readOutput stage)
      next cause failed =>
        rw [failed]
        exact .fails (Compilation.leaves_self host _ _) steps
  | clear outcome =>
      simp only [stage] at steps ⊢
      split at steps
      next machine ok =>
        cases steps
        rw [ok]
        exact .succeeds (.clear stage ok)
      next cause failed =>
        rw [failed]
        exact .fails (Compilation.leaves_self host _ _) steps
  | done outcome =>
      rw [stage] at steps
      cases steps

/-- What happens in a run is that the call acts, or that something else happens. -/
theorem Next.cases
    {happening : Happening}
    (made : Next host call happening next) :
    (∃ refused?, happening = .act call.compilation.stage refused? ∧
      Acts host call refused? next) ∨
    ∃ machine, happening = .meanwhile ∧ call.Allows machine ∧ next = { call with machine } := by
  cases made with
  | act made =>
      exact .inl ⟨_, rfl, acts_of_act? made⟩
  | refuse leaves failed =>
      exact .inl ⟨_, rfl, .fails leaves failed⟩
  | meanwhile allowed =>
      exact .inr ⟨_, rfl, allowed, rfl⟩

end Call

end CompilePlayground
