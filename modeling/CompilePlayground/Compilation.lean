import CompilePlayground.Config
import CompilePlayground.Failure
import CompilePlayground.Posix.Spawn
import CompilePlayground.Report

namespace CompilePlayground

open Posix

/-!
# Compilations

A job is compiled in a directory of its own: the source is written there, the compiler runs in
it and writes to one file, and the directory is removed whatever has happened. A
`Compilation` is a job on its way through the stages of this, and `Compilation.step` takes it
from one stage to the next, unless it has to wait for the compiler.
-/

/-- A source to compile, under the name of its job. -/
structure Job where
  id : String
  source : Bytes
  deriving Repr, DecidableEq

/-- What comes of a job: a report, or the step that could not be done. -/
abbrev Outcome := Except CompileFailure Report

/-- What is to be done next for a job. -/
inductive Stage where
  | makeDirectory
  | writeSource
  | openOutput
  | launch (output : Nat)
  | await (process deadline : Nat)
  | readOutput (verdict : Verdict)
  | clear (outcome : Outcome)
  | done (outcome : Outcome)
  deriving Repr

/-- How many stages are left at most. -/
def Stage.rank : Stage → Nat
  | .makeDirectory => 7
  | .writeSource => 6
  | .openOutput => 5
  | .launch _ => 4
  | .await _ _ => 3
  | .readOutput _ => 2
  | .clear _ => 1
  | .done _ => 0

/-- A job on its way. -/
structure Compilation where
  settings : CompilerSettings
  job : Job
  stage : Stage
  deriving Repr

/-- A compilation after a step, with what the machine is then and what was logged. -/
structure Stepped where
  compilation : Compilation
  machine : Machine
  events : List LogEvent

namespace Compilation

/-- The name of the file that holds the source. -/
def sourceName : String := "main.cpp"

/-- The name of the file that the compiler writes to. -/
def outputName : String := "output"

/-- The name that the compiler is to give to the program it makes. -/
def binaryName : String := "test"

/-- A job that nothing has been done for yet. -/
def begin (settings : CompilerSettings) (job : Job) : Compilation :=
  { settings, job, stage := .makeDirectory }

/-- What has come of a job that all has been done for. -/
def outcome? (compilation : Compilation) : Option Outcome :=
  match compilation.stage with
  | .done outcome => some outcome
  | _ => none

/-- The directory of the job. -/
def directory (compilation : Compilation) : Bytes :=
  Path.join compilation.settings.workDirectory (Text.Utf8.encode compilation.job.id)

/-- The name of a file in the directory of the job. -/
def fileName (compilation : Compilation) (name : String) : Bytes :=
  Path.join compilation.directory (Text.Utf8.encode name)

/-- How the compiler is started. -/
def command (compilation : Compilation) (output : Nat) : Command :=
  { program := Text.Utf8.encode compilation.settings.program,
    arguments :=
      (compilation.settings.flags ++ ["-o", binaryName, sourceName]).map Text.Utf8.encode,
    directory? := some compilation.directory,
    leads := true,
    output := output,
    errors := output }

/-- What the end of the compiler says about the job. -/
def verdictOf : ExitStatus → Verdict
  | .code 0 => .succeeded
  | .code value => .failed (some value)
  | .signal _ => .failed none

/-- What is logged about the end of the compiler. -/
def endingText (compilation : Compilation) : Verdict → String
  | .succeeded => "Compilation succeeded for job " ++ compilation.job.id
  | .failed (some code) =>
    "Compilation failed for job " ++ compilation.job.id ++ " with exit code Some("
      ++ toString code ++ ")"
  | .failed none =>
    "Compilation failed for job " ++ compilation.job.id ++ " with exit code None"
  | .timedOut =>
    "Compilation for job " ++ compilation.job.id ++ " exceeded "
      ++ compilation.settings.timeout.write ++ ", killing it"

/-- The line that ends the output of a job that took too long. -/
def timeoutLine (timeout : Time.Span) : String :=
  "Compilation timed out after " ++ timeout.write ++ "\n"

/-- The output of a job from what the compiler has written. -/
def outputText (timeout : Time.Span) (verdict : Verdict) (bytes : Bytes) : String :=
  let text := Text.Utf8.decodeLossy bytes
  match verdict with
  | .timedOut =>
    let ended := if text = "" || text.endsWith "\n" then text else text ++ "\n"
    ended ++ timeoutLine timeout
  | _ => text

/-- A compilation at another stage. -/
def atStage (compilation : Compilation) (stage : Stage) : Compilation :=
  { compilation with stage }

/-- An event of the compiler's. -/
def event (level : Level) (message : String) : LogEvent :=
  .plain level .compiler message

/-- Go on to another stage without a word. -/
def quietly (compilation : Compilation) (stage : Stage) (machine : Machine) : Stepped :=
  ⟨compilation.atStage stage, machine, []⟩

/-- The compiler has been waited for long enough when its time is over. -/
def isOver (machine : Machine) (deadline : Nat) : Bool :=
  deadline ≤ machine.clock

/-- What is said when the directory of the job could not be removed. -/
def clearingText (compilation : Compilation) (cause : IoError) : String :=
  "Failed to clean up " ++ Text.Utf8.decodeLossy compilation.directory ++ ": " ++ cause.message

/-- What is said when the compiler is started. -/
def launchingText (compilation : Compilation) : String :=
  "Starting compilation for job " ++ compilation.job.id

/-- Go on after what was to be done next for a job could not be done. Whatever it was, the
directory of the job is removed, unless it could not be made; a compiler that cannot be waited
for is killed. -/
def fail (compilation : Compilation) (cause : IoError) (machine : Machine) : Option Stepped :=
  match compilation.stage with
  | .makeDirectory => some (compilation.quietly (.done (.error (.directory cause))) machine)
  | .writeSource => some (compilation.quietly (.clear (.error (.source cause))) machine)
  | .openOutput => some (compilation.quietly (.clear (.error (.output cause))) machine)
  | .launch _ =>
    some
      ⟨compilation.atStage (.clear (.error (.launch cause))), machine,
        [event .debug compilation.launchingText]⟩
  | .await process _ =>
    some (compilation.quietly (.clear (.error (.wait cause))) (machine.killProcess process))
  | .readOutput _ => some (compilation.quietly (.clear (.error (.output cause))) machine)
  | .clear outcome =>
    some
      ⟨compilation.atStage (.done outcome), machine,
        [event .warn (compilation.clearingText cause)]⟩
  | .done _ => none

/-- Do what is to be done next for a job. There is nothing to do while the compiler runs and has
time left, and when all is done. -/
def step (host : Host) (compilation : Compilation) (machine : Machine) : Option Stepped :=
  match compilation.stage with
  | .makeDirectory =>
    match machine.createDirectories host compilation.directory with
    | .ok next => some (compilation.quietly .writeSource next)
    | .error cause =>
      compilation.fail cause (machine.afterFailedDirectories host compilation.directory)
  | .writeSource =>
    match machine.fillFile host (compilation.fileName sourceName) compilation.job.source with
    | .ok next => some (compilation.quietly .openOutput next)
    | .error cause => compilation.fail cause machine
  | .openOutput =>
    match machine.openEmptied host (compilation.fileName outputName) with
    | .ok (output, next) => some (compilation.quietly (.launch output) next)
    | .error cause => compilation.fail cause machine
  | .launch output =>
    match machine.spawn host (compilation.command output) with
    | .ok (process, next) =>
      let deadline := machine.clock + compilation.settings.timeout.nanoseconds
      some
        ⟨compilation.atStage (.await process deadline), next,
          [event .debug compilation.launchingText]⟩
    | .error cause => compilation.fail cause machine
  | .await process deadline =>
    match machine.poll process with
    | .error cause => compilation.fail cause machine
    | .ok (some status) =>
      let verdict := verdictOf status
      some
        ⟨compilation.atStage (.readOutput verdict), machine.forget process,
          [event .debug (compilation.endingText verdict)]⟩
    | .ok none =>
      if isOver machine deadline then
        let killed := (machine.killGroup process).killProcess process
        some
          ⟨compilation.atStage (.readOutput .timedOut), killed.forget process,
            [event .warn (compilation.endingText .timedOut)]⟩
      else
        none
  | .readOutput verdict =>
    match machine.fileBytes host (compilation.fileName outputName) with
    | .ok bytes =>
      let report : Report :=
        ⟨verdict, outputText compilation.settings.timeout verdict bytes⟩
      some (compilation.quietly (.clear (.ok report)) machine)
    | .error cause => compilation.fail cause machine
  | .clear outcome =>
    match machine.removeTree host compilation.directory with
    | .ok next => some (compilation.quietly (.done outcome) next)
    | .error cause => compilation.fail cause machine
  | .done _ => none

/-- A failure changes nothing about a compilation but its stage. -/
theorem fail_keeps
    {compilation : Compilation}
    {cause : IoError}
    {machine : Machine}
    {stepped : Stepped}
    (made : compilation.fail cause machine = some stepped) :
    ∃ stage, stepped.compilation = compilation.atStage stage := by
  unfold fail at made
  split at made
  case h_8 => cases made
  all_goals
    cases made
    exact ⟨_, rfl⟩

/-- A step changes nothing about a compilation but its stage. -/
theorem step_keeps
    {host : Host}
    {compilation : Compilation}
    {machine : Machine}
    {stepped : Stepped}
    (made : compilation.step host machine = some stepped) :
    ∃ stage, stepped.compilation = compilation.atStage stage := by
  unfold step at made
  repeat' split at made
  all_goals
    first
    | exact fail_keeps made
    | cases made <;> exact ⟨_, rfl⟩

variable {host : Host} {compilation : Compilation} {machine : Machine} {stepped : Stepped}

theorem rank_of_fail
    {cause : IoError}
    (made : compilation.fail cause machine = some stepped) :
    stepped.compilation.stage.rank < compilation.stage.rank := by
  unfold fail at made
  generalize compilation.stage = stage at made ⊢
  cases stage <;> cases made <;> simp [Stage.rank, quietly, atStage]

/-- Every step leads to a later stage. -/
theorem rank_of_step (made : compilation.step host machine = some stepped) :
    stepped.compilation.stage.rank < compilation.stage.rank := by
  have fails {cause : IoError} {machine : Machine} :=
    @rank_of_fail compilation machine stepped cause
  unfold step at made
  generalize compilation.stage = stage at made fails ⊢
  cases stage <;> simp only at made
  case done =>
    cases made
  all_goals
    repeat' split at made
    all_goals
      first
      | exact fails made
      | cases made <;> simp [Stage.rank, quietly, atStage]

theorem fail_isSome
    (unfinished : compilation.outcome? = none)
    (cause : IoError)
    (machine : Machine) :
    (compilation.fail cause machine).isSome = true := by
  unfold outcome? at unfinished
  unfold fail
  generalize compilation.stage = stage at unfinished ⊢
  cases stage with
  | done =>
      cases unfinished
  | _ =>
      rfl

/-- When the compiler has to be done, while it is waited for. -/
def deadline? (compilation : Compilation) : Option Nat :=
  match compilation.stage with
  | .await _ deadline => some deadline
  | _ => none

/-- The machine when the time of the compiler is over, if it is waited for. -/
def overtime (compilation : Compilation) (machine : Machine) : Machine :=
  { machine with clock := max machine.clock (compilation.deadline?.getD 0) }

/-- There is something to do for a job that is not done, at the latest when the compiler's time
is over. -/
theorem step_overtime_isSome
    (unfinished : compilation.outcome? = none)
    (host : Host)
    (machine : Machine) :
    (compilation.step host (compilation.overtime machine)).isSome = true := by
  have fails := fail_isSome unfinished
  unfold outcome? at unfinished
  unfold step
  cases stands : compilation.stage with
  | await process deadline =>
      simp only
      split
      · exact fails _ _
      · rfl
      · have late : isOver (compilation.overtime machine) deadline = true := by
          unfold overtime deadline?
          rw [stands]
          exact decide_eq_true (Nat.le_max_right _ _)
        rw [if_pos late]
        rfl
  | done outcome =>
      rw [stands] at unfinished
      cases unfinished
  | makeDirectory | writeSource | openOutput | launch | readOutput | clear =>
      simp only
      split
      · rfl
      · exact fails _ _

/-- A job for which there is nothing to do, and no compiler to wait for, is done. -/
theorem outcome?_isSome_of_step
    (idle : compilation.step host machine = none)
    (alone : compilation.deadline? = none) :
    compilation.outcome?.isSome = true := by
  have now : compilation.overtime machine = machine := by
    rw [overtime, alone, Option.getD_none, Nat.max_zero]
  cases finished : compilation.outcome? with
  | some outcome =>
      rfl
  | none =>
      have goes := step_overtime_isSome finished host machine
      rw [now, idle] at goes
      cases goes

/-- Do what is left to be done for a job, with no more time for the compiler. The bound counts
steps. -/
def hurryWithin (host : Host) :
    Nat → Compilation → Machine → List LogEvent → Compilation × Machine × List LogEvent
  | 0, compilation, machine, events => (compilation, machine, events)
  | bound + 1, compilation, machine, events =>
    match compilation.step host (compilation.overtime machine) with
    | some stepped =>
      hurryWithin host bound stepped.compilation stepped.machine (events ++ stepped.events)
    | none => (compilation, machine, events)

/-- Do all that is to be done for a job, and let the compiler run meanwhile. The bound counts
steps and moments. A compiler that has more of them is given up. -/
def finishWithin (host : Host) :
    Nat → Compilation → Machine → List LogEvent → Compilation × Machine × List LogEvent
  | 0, compilation, machine, events =>
    hurryWithin host compilation.stage.rank compilation machine events
  | bound + 1, compilation, machine, events =>
    match compilation.step host machine with
    | some stepped =>
      finishWithin host bound stepped.compilation stepped.machine (events ++ stepped.events)
    | none =>
      match compilation.deadline? with
      | none => (compilation, machine, events)
      | some deadline =>
        let settled := machine.settle
        if (compilation.step host settled).isSome then
          finishWithin host bound compilation settled events
        else
          finishWithin host bound compilation (settled.passTime (some deadline)) events

/-- Do all that is to be done for a job, and let the compiler run meanwhile. -/
def finish (host : Host) (compilation : Compilation) (machine : Machine) :
    Compilation × Machine × List LogEvent :=
  finishWithin host Machine.stepLimit compilation machine []

/-- A job that is hurried through its stages is done. -/
theorem hurryWithin_isSome
    {bound : Nat}
    (enough : compilation.stage.rank ≤ bound)
    (events : List LogEvent) :
    (hurryWithin host bound compilation machine events).1.outcome?.isSome = true := by
  induction bound generalizing compilation machine events with
  | zero =>
      obtain ⟨settings, job, stage⟩ := compilation
      cases stage <;> first | rfl | cases enough
  | succ bound inductionHypothesis =>
      unfold hurryWithin
      cases made : compilation.step host (compilation.overtime machine) with
      | some stepped =>
          have fewer := rank_of_step made
          exact inductionHypothesis (by omega) _
      | none =>
          cases finished : compilation.outcome? with
          | some outcome =>
              rfl
          | none =>
              have goes := step_overtime_isSome finished host machine
              rw [made] at goes
              cases goes

/-- Something comes of every job. -/
theorem finishWithin_isSome (bound : Nat) (events : List LogEvent) :
    (finishWithin host bound compilation machine events).1.outcome?.isSome = true := by
  induction bound generalizing compilation machine events with
  | zero =>
      exact hurryWithin_isSome (Nat.le_refl _) events
  | succ bound inductionHypothesis =>
      unfold finishWithin
      cases made : compilation.step host machine with
      | some stepped =>
          exact inductionHypothesis _
      | none =>
          simp only
          split
          next alone =>
            exact outcome?_isSome_of_step made alone
          next deadline waits =>
            split <;> exact inductionHypothesis _

end Compilation

/-- Compile one job, with what comes of it, what the machine is then, and what was logged. -/
def compile (host : Host) (settings : CompilerSettings) (job : Job) (machine : Machine) :
    Option Outcome × Machine × List LogEvent :=
  let (compilation, after, events) :=
    (Compilation.begin settings job).finish host machine
  (compilation.outcome?, after, events)

/-- Something comes of every job. -/
theorem compile_isSome
    (host : Host)
    (settings : CompilerSettings)
    (job : Job)
    (machine : Machine) :
    (compile host settings job machine).1.isSome = true := by
  unfold compile Compilation.finish
  exact Compilation.finishWithin_isSome _ _

end CompilePlayground
