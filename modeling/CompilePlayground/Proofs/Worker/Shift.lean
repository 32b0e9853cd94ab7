import CompilePlayground.Proofs.Service.Settling
import CompilePlayground.Worker

namespace CompilePlayground

open Posix

/-!
# Workers step by step

A `Shift` is a worker on its way through the jobs of a closed queue: it takes a job, does what is
to be done next for it, replies, and stops when no job is left. Between two of its steps anything
may happen to the machine: compilers go on, time passes. What happens depends on nothing but the
machine, so that two workers that take the same turns meet compilers that act alike on what they
find, and clocks that go alike.
-/

namespace Compilation

variable {host : Host} {compilation current : Compilation} {machine : Machine}
  {machines : List Machine} {stepped : Stepped}

/-- What is logged when a job is brought further on one machine after the other. -/
def logged (host : Host) : Compilation → List Machine → List LogEvent
  | _, [] => []
  | compilation, machine :: rest =>
    match compilation.step host machine with
    | some stepped => stepped.events ++ logged host stepped.compilation rest
    | none => []

end Compilation

namespace Worker

/-- A worker: the host that it works on, how it is to compile, and its number. -/
structure Station where
  host : Host
  settings : CompilerSettings
  index : Nat

/-- What a worker is at. -/
inductive Activity where
  | idle
  | busy (request : Request) (compilation : Compilation)
  | stopped

/-- A worker on its way through the jobs of a closed queue. -/
structure Shift where
  queue : List Request
  activity : Activity
  progress : Progress

/-- Something that happens on a shift: the worker goes on, or the machine changes. -/
inductive Turn where
  | work
  | change (effect : Machine → Machine)

namespace Turn

/-- The time that passes until a moment. -/
def wait (moment : Nat) : Turn :=
  .change fun machine => { machine with clock := max machine.clock moment }

end Turn

namespace Activity

/-- How many things are left to be done for the job at hand at most. -/
def rank : Activity → Nat
  | .idle => 1
  | .busy _ compilation => 2 + compilation.stage.rank
  | .stopped => 0

end Activity

namespace Progress

/-- Progress with more that was logged. -/
def log (progress : Progress) (events : List LogEvent) : Progress :=
  { progress with events := progress.events ++ events }

/-- Progress on another machine. -/
def onMachine (progress : Progress) (machine : Machine) : Progress :=
  { progress with machine }

/-- Progress with one more job that was replied to. -/
def answer (progress : Progress) (index : Nat) (request : Request) (outcome : Outcome) :
    Progress :=
  { progress with
    replies := progress.replies ++ [if request.isGone then none else some (report outcome)] }.log
      (afterwards index request.job outcome ++ [replied index request.job request.isGone])

end Progress

namespace Shift

/-- A worker that has just begun. -/
def begin (station : Station) (queue : List Request) (machine : Machine) : Shift :=
  ⟨queue, .idle, ⟨[], machine, [started station.index]⟩⟩

/-- The next thing that a worker does, if anything can be done. -/
def work? (station : Station) (shift : Shift) : Option Shift :=
  match shift.activity with
  | .idle =>
    match shift.queue with
    | request :: rest =>
      some ⟨rest, .busy request (.begin station.settings request.job),
        shift.progress.log [received station.index request.job]⟩
    | [] => some ⟨[], .stopped, shift.progress.log [ended station.index]⟩
  | .busy request compilation =>
    match compilation.outcome? with
    | some outcome =>
      some ⟨shift.queue, .idle, shift.progress.answer station.index request outcome⟩
    | none =>
      (compilation.step station.host shift.progress.machine).map fun stepped =>
        ⟨shift.queue, .busy request stepped.compilation,
          (shift.progress.onMachine stepped.machine).log stepped.events⟩
  | .stopped => none

/-- A shift after a turn, if the turn can be taken. -/
def turn? (station : Station) (shift : Shift) : Turn → Option Shift
  | .work => shift.work? station
  | .change effect =>
    some { shift with progress := shift.progress.onMachine (effect shift.progress.machine) }

/-- A shift after some turns, if all of them can be taken. -/
def turns? (station : Station) (shift : Shift) (turns : List Turn) : Option Shift :=
  turns.foldlM (turn? station) shift

/-- The job that a turn brings further, if it does, with the machine that it finds. -/
def furthered (shift : Shift) : Turn → List (Job × Machine)
  | .work =>
    match shift.activity with
    | .busy request compilation =>
      if compilation.outcome?.isNone then [(request.job, shift.progress.machine)] else []
    | _ => []
  | .change _ => []

/-- The jobs that turns bring further, one step after the other, as long as they can be taken. -/
def labour (station : Station) : Shift → List Turn → List (Job × Machine)
  | _, [] => []
  | shift, turn :: rest =>
    match shift.turn? station turn with
    | some next => shift.furthered turn ++ labour station next rest
    | none => []

variable {station : Station} {shift next reached : Shift} {turn : Turn} {turns : List Turn}

theorem turns?_cons (station : Station) (shift : Shift) (turn : Turn) (turns : List Turn) :
    shift.turns? station (turn :: turns) =
      (shift.turn? station turn).bind fun next => next.turns? station turns :=
  List.foldlM_cons

/-- How many things are left to be done for all jobs at most. -/
def rank (shift : Shift) : Nat :=
  10 * shift.queue.length + shift.activity.rank

/-- A shift after some time has passed. -/
def waited (shift : Shift) (moment : Nat) : Shift :=
  { shift with
    progress := shift.progress.onMachine
      { shift.progress.machine with clock := max shift.progress.machine.clock moment } }

end Shift

/-- The jobs of a queue, with those clients gone whose places are picked. -/
def queueOf (gone : Nat → Bool) (jobs : List (Job × Nat)) : List Request :=
  jobs.map fun entry => ⟨entry.1, gone entry.2⟩

end Worker

end CompilePlayground
