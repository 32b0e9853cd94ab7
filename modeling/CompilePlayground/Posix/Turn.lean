import CompilePlayground.Posix.Launch
import CompilePlayground.Posix.Machine

namespace CompilePlayground.Posix.Machine

/-!
# Turns

A turn of a process takes it from one request to the next. `Machine.answer?` gives the answer
to a request, or none while the process has to wait. `Machine.settle` lets all processes go on
until each of them waits, and `Machine.advance` lets time go by.
-/

/-- An answer to a request of a process, with what the machine is then. -/
abbrev Answered (request : Request) : Type :=
  request.Answer × Machine

/-- The answer that only changes the disk. -/
def onDisk (machine : Machine) (result : Reply Disk) : Reply Unit × Machine :=
  match result with
  | .ok disk => (.ok (), { machine with disk })
  | .error error => (.error error, machine)

/-- The children of a process, of which one or any may be asked for. -/
def isChild (parent : Process) (child? : Option Nat) (process : Process) : Bool :=
  process.parent = parent.id
    && match child? with
      | some child => process.id = child
      | none => true

/-- The answer about the end of a child. There is none while the child lives. -/
def reap? (machine : Machine) (parent : Process) (child? : Option Nat) :
    Option (Reply (Nat × ExitStatus) × Machine) :=
  let children := machine.processes.filter (isChild parent child?)
  if children.isEmpty then some (.error .noChild, machine)
  else
    match children.findSome? fun child => child.ending?.map fun status => (child.id, status) with
    | some (id, status) => some (.ok (id, status), machine.forget id)
    | none => none

/-- The answer to a request, if it can be given yet. Running another program and splitting are
not answered here, for the process does not go on as it was. -/
def answer? (machine : Machine) (process : Process) :
    (request : Request) → Option (Answered request)
  | .openFile path mode =>
    match machine.openName (machine.start? process) path mode with
    | .ok (id, next) =>
      let descriptor := process.freeDescriptor 0
      some (.ok descriptor, next.updateProcess process.id fun p => p.bind descriptor id)
    | .error error => some (.error error, machine)
  | .closeFile descriptor =>
    match process.openFile? descriptor with
    | some _ =>
      some (.ok (), (machine.updateProcess process.id fun p => p.unbind descriptor))
    | none => some (.error .badDescriptor, machine)
  | .duplicate source target =>
    match process.openFile? source with
    | some id => some (.ok (), machine.updateProcess process.id fun p => p.bind target id)
    | none => some (.error .badDescriptor, machine)
  | .duplicateFrom source least =>
    match process.openFile? source with
    | some id =>
      let target := process.freeDescriptor least
      some (.ok target, machine.updateProcess process.id fun p => p.bind target id)
    | none => some (.error .badDescriptor, machine)
  | .openPipe =>
    let ((reader, writer), piped) := machine.addPipe
    let first := process.freeDescriptor 0
    let second := (process.bind first reader).freeDescriptor 0
    some ((first, second),
      piped.updateProcess process.id fun p => (p.bind first reader).bind second writer)
  | .read descriptor limit =>
    match process.openFile? descriptor with
    | some id => machine.readOpen id limit
    | none => some (.error .badDescriptor, machine)
  | .write descriptor bytes =>
    match process.openFile? descriptor with
    | some id =>
      match machine.writeOpen id bytes with
      | some (reply, isBroken, next) =>
        if isBroken then
          some (reply, next.sendWhere (fun p => p.id = process.id) Signal.pipe)
        else
          some (reply, next)
      | none => none
    | none => some (.error .badDescriptor, machine)
  | .status path follow =>
    match machine.disk.find (machine.start? process) follow path with
    | .ok (_, node) => some (.ok (machine.disk.describe node), machine)
    | .error error => some (.error error, machine)
  | .openStatus descriptor =>
    match (process.openFile? descriptor).bind machine.openFile? with
    | some opened =>
      match opened.stream with
      | .file id => some (.ok (machine.disk.describe (.file id)), machine)
      | .directory => some (.ok ⟨.directory, Disk.rootId, 4096, 0o755, 0⟩, machine)
      | .pipeEnd pipe _ => some (.ok ⟨.pipe, pipe, 0, 0o600, 0⟩, machine)
    | none => some (.error .badDescriptor, machine)
  | .list path =>
    if (machine.start? process).isNone && (path = Path.here || path = Path.here ++ [slash]) then
      some (.ok [], machine)
    else
      some (machine.disk.list (machine.start? process) path, machine)
  | .readLink path =>
    match machine.disk.find (machine.start? process) false path with
    | .ok (_, .link target) => some (.ok target, machine)
    | .ok _ => some (.error .invalid, machine)
    | .error error => some (.error error, machine)
  | .createDirectory path =>
    some (machine.onDisk (machine.disk.createDirectory (machine.start? process) path))
  | .removeFile path =>
    some (machine.onDisk (machine.disk.removeFile (machine.start? process) path))
  | .removeDirectory path =>
    some (machine.onDisk (machine.disk.removeDirectory (machine.start? process) path))
  | .rename source target =>
    some (machine.onDisk (machine.disk.rename (machine.start? process) source target))
  | .link source target =>
    some (machine.onDisk (machine.disk.link (machine.start? process) source target))
  | .symbolicLink target path =>
    some (machine.onDisk (machine.disk.symbolicLink (machine.start? process) target path))
  | .changeMode path mode =>
    some (machine.onDisk (machine.disk.changeMode (machine.start? process) path mode))
  | .changeDirectory path =>
    match machine.disk.find (machine.start? process) true path with
    | .ok (_, .directory id) =>
      some (.ok (), machine.updateProcess process.id fun p => { p with directory := id })
    | .ok _ => some (.error .notDirectory, machine)
    | .error error => some (.error error, machine)
  | .workingDirectory =>
    match machine.start? process with
    | some path => some (.ok path.write, machine)
    | none => some (.error .notFound, machine)
  | .execute _ _ => some (SystemError.notExecutable, machine)
  | .waitChild child? => machine.reap? process child?
  | .pollChild child =>
    match machine.reap? process (some child) with
    | some (.ok (_, status), next) => some (some status, next)
    | _ => some (none, machine)
  | .signal target number => some (machine.send process target number)
  | .setDisposition number disposition =>
    some ((),
      if Signal.isBindable number then
        machine.updateProcess process.id fun p => p.dispose number disposition
      else machine)
  | .disposition number => some (process.dispositionOf number, machine)
  | .takeSignal =>
    match process.caught with
    | [] => some (none, machine)
    | number :: rest =>
      some (some number, machine.updateProcess process.id fun p => { p with caught := rest })
  | .clock => some (machine.clock, machine)
  | .sleepUntil time => if time ≤ machine.clock then some ((), machine) else none
  | .processId => some (process.id, machine)
  | .parentId => some (process.parent, machine)

/-- Let a process go on with a program, unless a signal has ended or stopped it meanwhile. -/
def proceed (machine : Machine) (id : Nat) (program : Program) : Machine :=
  machine.updateProcess id fun process =>
    match process.progress with
    | .running _ => { process with progress := .running program }
    | .stopped _ => { process with progress := .stopped program }
    | .ended _ => process

/-- The child that a process splits into. It has all that its parent has, but no signals
recorded. -/
def child (machine : Machine) (parent : Process) (program : Program) : Process :=
  { parent with
    id := machine.fresh, parent := parent.id, caught := [], progress := .running program }

/-- Let a process take one step. There is none while it waits, and when it has ended. -/
def turn (machine : Machine) (id : Nat) : Option Machine :=
  match machine.process? id with
  | none => none
  | some process =>
    match process.progress with
    | .running (.exit code) => some (machine.endProcess id (.code (code % 256)))
    | .running (.split program next) =>
      let made := machine.child process program
      some
        ({ machine with
          processes := machine.processes ++ [made],
          fresh := machine.fresh + 1 }.proceed id (next made.id))
    | .running (.call (.execute path invocation) next) =>
      match Launch.program machine.disk (machine.start? process) path invocation with
      | .ok program => some (machine.updateProcess id fun p => p.replace program)
      | .error error => some (machine.proceed id (next error))
    | .running (.call request next) =>
      match machine.answer? process request with
      | some (answer, after) => some (after.proceed id (next answer))
      | none => none
    | _ => none

/-- Let the first process that can go on take one step. -/
def turnAny (machine : Machine) : Option Machine :=
  machine.processes.findSome? fun process => machine.turn process.id

/-- Let processes go on until all of them wait. The bound counts steps. -/
def settleWithin : Nat → Machine → Machine
  | 0, machine => machine
  | steps + 1, machine =>
    match machine.turnAny with
    | some next => settleWithin steps next
    | none => machine

/-- How many steps the processes may take in one go. -/
def stepLimit : Nat := 1000000000

/-- Let processes go on until all of them wait. -/
def settle (machine : Machine) : Machine :=
  settleWithin stepLimit machine

/-- When a process that sleeps goes on. -/
def wakeTime? (process : Process) : Option Nat :=
  match process.progress with
  | .running (.call (.sleepUntil time) _) => some time
  | _ => none

/-- The next time at which some process goes on. -/
def nextWake? (machine : Machine) : Option Nat :=
  (machine.processes.filterMap wakeTime?).min?

/-- Let time go by up to some moment, with all that happens until then. The bound counts the
moments at which something happens. -/
def advanceWithin : Nat → Nat → Machine → Machine
  | 0, _, machine => machine
  | moments + 1, time, machine =>
    let settled := machine.settle
    match settled.nextWake? with
    | some wake =>
      if wake ≤ time then
        advanceWithin moments time { settled with clock := max settled.clock wake }
      else { settled with clock := max settled.clock time }
    | none => { settled with clock := max settled.clock time }

/-- Let time go by up to some moment. -/
def advance (machine : Machine) (time : Nat) : Machine :=
  advanceWithin stepLimit time machine

end CompilePlayground.Posix.Machine
