import CompilePlayground.Posix.Turn

namespace CompilePlayground.Posix

/-!
# What a program that drives others does

A `Host` is a program that is not run by the machine itself, such as a service: it has a
directory and variables like a process, reads and writes files, and starts processes, waits
for them and kills them.
-/

/-- What a host has from the system. -/
structure Host where
  directory : Path
  environment : List (Bytes × Bytes)
  deriving Repr, DecidableEq

/-- The name of the variable that holds the path that programs are looked for on. -/
def pathVariable : Bytes :=
  [80, 65, 84, 72]

/-- The path that programs are looked for on where the variable is not set. -/
def standardPath : Bytes :=
  [47, 98, 105, 110, 58, 47, 117, 115, 114, 47, 98, 105, 110]

/-- The path that programs are looked for on. -/
def Host.searchPath (host : Host) : Bytes :=
  (host.environment.lookup pathVariable).getD standardPath

/-- How a process is to be started. -/
structure Command where
  program : Bytes
  arguments : List Bytes
  directory? : Option Bytes
  leads : Bool
  output : Nat
  errors : Nat
  deriving Repr, DecidableEq

namespace Machine

/-- The number that stands for the host as a parent. -/
def hostId : Nat := 0

/-- A system error as the failure of an operation. -/
def orFail {α : Type} (reply : Reply α) : Except IoError α :=
  match reply with
  | .ok value => .ok value
  | .error error => .error (.system error)

/-- Do something with a name, which must not hold a zero byte. -/
def withName {α : Type} (name : Bytes) (act : Bytes → Reply α) : Except IoError α :=
  if name.contains 0 then
    .error (.custom "file name contained an unexpected NUL byte")
  else
    orFail (act name)

/-- A machine with another disk. -/
def withDisk (machine : Machine) (disk : Disk) : Machine :=
  { machine with disk }

/-- Make a directory together with those above it that are missing. -/
def createDirectories (machine : Machine) (host : Host) (name : Bytes) :
    Except IoError Machine :=
  (withName name fun name =>
    machine.disk.createDirectories (some host.directory) name).map machine.withDisk

/-- The machine after a directory could not be made: those above it that could be made stay. -/
def afterFailedDirectories (machine : Machine) (host : Host) (name : Bytes) : Machine :=
  if name.contains 0 then machine
  else machine.withDisk (machine.disk.tryDirectories (some host.directory) name).1

/-- Make a file hold some bytes and no others. -/
def fillFile (machine : Machine) (host : Host) (name bytes : Bytes) :
    Except IoError Machine :=
  (withName name fun name =>
    machine.disk.write (some host.directory) machine.seconds name bytes).map machine.withDisk

/-- Empty a file and open it for writing. -/
def openEmptied (machine : Machine) (host : Host) (name : Bytes) :
    Except IoError (Nat × Machine) :=
  withName name fun name => machine.openName (some host.directory) name .truncate

/-- The bytes of a file. -/
def fileBytes (machine : Machine) (host : Host) (name : Bytes) : Except IoError Bytes :=
  withName name fun name => machine.disk.read (some host.directory) name

/-- Take away a directory with all that is in it. -/
def removeTree (machine : Machine) (host : Host) (name : Bytes) : Except IoError Machine :=
  (withName name fun name =>
    machine.disk.removeTree (some host.directory) name).map machine.withDisk

/-- Whether a command holds a zero byte, which no program can be given. -/
def holdsZero (command : Command) : Bool :=
  command.program.contains 0 || command.arguments.any (·.contains 0)
    || command.directory?.any (·.contains 0)

/-- The directory that a command is run in. -/
def directoryOf (machine : Machine) (host : Host) (command : Command) : Reply Path :=
  match command.directory? with
  | none => .ok host.directory
  | some name =>
    match machine.disk.find (some host.directory) true name with
    | .ok (path, .directory _) => .ok path
    | .ok _ => .error .notDirectory
    | .error error => .error error

/-- The number of the directory at a path. -/
def directoryId (disk : Disk) (path : Path) : Nat :=
  match disk.node? path with
  | some (.directory id) => id
  | _ => Disk.rootId

/-- The name of the device that gives nothing. -/
def voidDevice : Bytes :=
  [47, 100, 101, 118, 47, 110, 117, 108, 108]

/-- Start a process that reads nothing and writes to files that are open. -/
def spawn (machine : Machine) (host : Host) (command : Command) :
    Except IoError (Nat × Machine) :=
  if holdsZero command then .error (.custom "nul byte found in provided data")
  else
    let started : Reply (Nat × Machine) := do
      let directory ← machine.directoryOf host command
      let program ← Launch.find machine.disk (some directory) host.searchPath command.program
        ⟨command.program :: command.arguments, host.environment⟩
      let (input, opened) ← machine.openName (some []) voidDevice .read
      let process : Process :=
        { id := opened.fresh,
          parent := hostId,
          group := if command.leads then opened.fresh else hostId,
          directory := directoryId opened.disk directory,
          descriptors := [(0, input), (1, command.output), (2, command.errors)],
          dispositions := [],
          caught := [],
          progress := .running program }
      .ok
        (process.id,
          { opened with processes := opened.processes ++ [process], fresh := opened.fresh + 1 })
    orFail started

/-- Open a pipe and keep its end for reading. -/
def openTap (machine : Machine) : (Nat × Nat) × Machine :=
  let (ends, piped) := machine.addPipe
  (ends, { piped with held := ends.1 :: piped.held })

/-- Give up an open file. -/
def release (machine : Machine) (openFile : Nat) : Machine :=
  { machine with held := machine.held.filter (· != openFile) }

/-- How a process ended that the host has started, once it has. -/
def ending? (machine : Machine) (id : Nat) : Option ExitStatus :=
  (machine.process? id).bind Process.ending?

/-- Wait for a process that the host has started, without a pause: how it ended, if it has. Only
a process that is known can be waited for. -/
def poll (machine : Machine) (id : Nat) : Except IoError (Option ExitStatus) :=
  match machine.process? id with
  | some process => .ok process.ending?
  | none => .error (.system .noChild)

/-- Kill all processes of a group. -/
def killGroup (machine : Machine) (group : Nat) : Machine :=
  machine.sendWhere (fun process => process.group = group) Signal.kill

/-- Kill one process. -/
def killProcess (machine : Machine) (id : Nat) : Machine :=
  machine.sendWhere (fun process => process.id = id) Signal.kill

/-- Whether some process of a group has not ended. -/
def isGroupAlive (machine : Machine) (group : Nat) : Bool :=
  machine.processes.any fun process => process.group = group && process.isAlive

/-- Let time go by up to the next moment at which something happens, or to some moment if
nothing does before. Nothing happens before all processes wait. -/
def passTime (machine : Machine) (limit? : Option Nat) : Machine :=
  match machine.nextWake?, limit? with
  | some wake, some limit => { machine with clock := max machine.clock (min wake limit) }
  | some wake, none => { machine with clock := max machine.clock wake }
  | none, some limit => { machine with clock := max machine.clock limit }
  | none, none => machine

end Machine

end CompilePlayground.Posix
