import CompilePlayground.Compilation

namespace CompilePlayground

open Posix

/-!
# Workers

A worker takes jobs off a queue one after the other, compiles each, and replies with a report.
A step that could not be done becomes a report of its own, so that there is a reply in any
case. The client may be gone by then, which changes nothing but what is logged.
-/

namespace Worker

/-- The report that a client gets. -/
def report : Outcome → Report
  | .ok report => report
  | .error failure =>
    { verdict := .failed none, output := "Fatal execution error: " ++ failure.message }

/-- An event of a worker's. -/
def event (level : Level) (message : String) : LogEvent :=
  .plain level .worker message

/-- What is said of the worker with some number. -/
def label (index : Nat) : String :=
  "Worker " ++ toString index

/-- What is logged when a worker begins. -/
def started (index : Nat) : LogEvent :=
  event .info (label index ++ " started")

/-- What is logged when a worker takes a job. -/
def received (index : Nat) (job : Job) : LogEvent :=
  event .debug (label index ++ " received job " ++ job.id)

/-- What is logged when a step for a job could not be done. -/
def failed (index : Nat) (job : Job) (failure : CompileFailure) : LogEvent :=
  event .error
    (label index ++ " failed to execute job " ++ job.id ++ ": " ++ failure.message)

/-- What is logged when a job has been replied to, or could not be since its client is gone. -/
def replied (index : Nat) (job : Job) (isGone : Bool) : LogEvent :=
  if isGone then
    event .debug
      (label index ++ ": client for job " ++ job.id
        ++ " went away before the result was ready")
  else
    event .debug (label index ++ " completed job " ++ job.id)

/-- What is said when a worker ends. -/
def endingText (index : Nat) : String :=
  label index ++ " shutting down: work queue closed"

/-- What is logged when a worker ends. -/
def ended (index : Nat) : LogEvent :=
  event .info (endingText index)

/-- What is logged between the end of a compilation and the reply. -/
def afterwards (index : Nat) (job : Job) : Outcome → List LogEvent
  | .ok _ => []
  | .error failure => [failed index job failure]

/-- A job in the queue, and whether its client is gone. -/
structure Request where
  job : Job
  isGone : Bool
  deriving Repr, DecidableEq

/-- What has come of the jobs so far. -/
structure Progress where
  replies : List (Option Report)
  machine : Machine
  events : List LogEvent

/-- Take the next job, compile it and reply. -/
def handle
    (host : Host)
    (settings : CompilerSettings)
    (index : Nat)
    (progress : Progress)
    (request : Request) :
    Progress :=
  let compiled := compile host settings request.job progress.machine
  let outcome := compiled.1.get (compile_isSome host settings request.job progress.machine)
  { replies :=
      progress.replies ++ [if request.isGone then none else some (report outcome)],
    machine := compiled.2.1,
    events :=
      progress.events ++ received index request.job :: compiled.2.2
        ++ afterwards index request.job outcome
        ++ [replied index request.job request.isGone] }

/-- Work on the jobs of a closed queue until there are none left. -/
def run
    (host : Host)
    (settings : CompilerSettings)
    (index : Nat)
    (queue : List Request)
    (machine : Machine) :
    Progress :=
  let progress := queue.foldl (handle host settings index) ⟨[], machine, [started index]⟩
  { progress with events := progress.events ++ [ended index] }

end Worker

end CompilePlayground
