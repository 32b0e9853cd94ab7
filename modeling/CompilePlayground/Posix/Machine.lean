import CompilePlayground.Posix.Disk
import CompilePlayground.Posix.Signal

namespace CompilePlayground.Posix

/-!
# Processes

A `Machine` has a disk, a clock, and processes that run programs. Each process belongs to a
group, has a directory to start names from, and descriptors for the files and pipes that it
has open. `Machine.turn` answers one request of one process, when the answer can be given yet.
-/

/-- What an open file stands for. -/
inductive Stream where
  | file (id : Nat)
  | directory
  | pipeEnd (pipe : Nat) (forWriting : Bool)
  deriving Repr, DecidableEq

/-- An open file. All descriptors that were copied from one another share it, and with it the
place where it is read and written next. -/
structure OpenFile where
  stream : Stream
  offset : Nat
  mode : OpenMode
  deriving Repr, DecidableEq

/-- How far a process has come. -/
inductive Progress where
  | running (program : Program)
  | stopped (program : Program)
  | ended (status : ExitStatus)

/-- A process. -/
structure Process where
  id : Nat
  parent : Nat
  group : Nat
  directory : Nat
  descriptors : List (Nat × Nat)
  dispositions : List (Nat × Disposition)
  caught : List Nat
  progress : Progress

namespace Process

/-- Whether a process has not ended. -/
def isAlive (process : Process) : Bool :=
  match process.progress with
  | .ended _ => false
  | _ => true

/-- How a process ended, once it has. -/
def ending? (process : Process) : Option ExitStatus :=
  match process.progress with
  | .ended status => some status
  | _ => none

/-- The open file behind a descriptor. -/
def openFile? (process : Process) (descriptor : Nat) : Option Nat :=
  process.descriptors.lookup descriptor

/-- Whether a process has some open file, under whatever descriptor. -/
def holds (process : Process) (openFile : Nat) : Bool :=
  process.isAlive && process.descriptors.any fun entry => entry.2 = openFile

/-- Let a descriptor stand for an open file, and for no other. -/
def bind (process : Process) (descriptor openFile : Nat) : Process :=
  { process with
    descriptors :=
      (descriptor, openFile) :: process.descriptors.filter fun entry => entry.1 != descriptor }

/-- Let a descriptor stand for nothing. -/
def unbind (process : Process) (descriptor : Nat) : Process :=
  { process with
    descriptors := process.descriptors.filter fun entry => entry.1 != descriptor }

/-- The least descriptor from some number on that stands for nothing. -/
def freeDescriptor (process : Process) (least : Nat) : Nat :=
  let taken := process.descriptors.map Prod.fst
  ((List.range (taken.length + 1)).map (least + ·)).find? (fun d => !taken.contains d)
    |>.getD least

/-- What a process does with a signal. -/
def dispositionOf (process : Process) (number : Nat) : Disposition :=
  (process.dispositions.lookup number).getD .standard

/-- Set what a process does with a signal. -/
def dispose (process : Process) (number : Nat) (disposition : Disposition) : Process :=
  { process with
    dispositions :=
      (number, disposition) :: process.dispositions.filter fun entry => entry.1 != number }

/-- The least descriptor that does not stay open when another program is run. -/
def privateDescriptors : Nat := 10

/-- A process that goes on with another program: the descriptors that are private to the old
one are closed, and no signal is recorded any more. -/
def replace (process : Process) (program : Program) : Process :=
  { process with
    descriptors := process.descriptors.filter fun entry => entry.1 < privateDescriptors,
    dispositions := process.dispositions.filter fun entry => entry.2 = .ignore,
    caught := [],
    progress := .running program }

/-- What a signal does to a process. -/
def receive (process : Process) (number : Nat) : Process :=
  match process.progress with
  | .ended _ => process
  | .running program =>
    match process.dispositionOf number with
    | .ignore => process
    | .record => { process with caught := process.caught ++ [number] }
    | .standard =>
      match Signal.effect number with
      | .terminate => { process with progress := .ended (.signal number) }
      | .stop => { process with progress := .stopped program }
      | .resume => process
      | .nothing => process
  | .stopped program =>
    if number = Signal.kill then { process with progress := .ended (.signal number) }
    else if Signal.effect number = .resume then { process with progress := .running program }
    else process

end Process

/-- The whole state of the machine. Times are in nanoseconds. The open files that are held
belong to a program that the machine does not run itself. -/
structure Machine where
  disk : Disk
  processes : List Process
  openFiles : List (Nat × OpenFile)
  held : List Nat
  pipes : List (Nat × Bytes)
  clock : Nat
  fresh : Nat

namespace Machine

/-- The number that stands for the machine itself as a parent. -/
def nobody : Nat := 1

/-- The first number that a process gets. -/
def firstId : Nat := 1000

/-- A machine with a disk and no processes. -/
def ofDisk (disk : Disk) : Machine :=
  { disk, processes := [], openFiles := [], held := [], pipes := [], clock := 0,
    fresh := firstId }

/-- The process with a number. -/
def process? (machine : Machine) (id : Nat) : Option Process :=
  machine.processes.find? fun process => process.id = id

/-- Change the process with a number. -/
def updateProcess (machine : Machine) (id : Nat) (change : Process → Process) : Machine :=
  { machine with
    processes := machine.processes.map fun process =>
      if process.id = id then change process else process }

/-- The time that files are stamped with, in seconds. -/
def seconds (machine : Machine) : Nat :=
  machine.clock / 1000000000

/-- Where the names that a process uses start. -/
def start? (machine : Machine) (process : Process) : Option Path :=
  machine.disk.directoryPath? process.directory

/-- The open file with a number. -/
def openFile? (machine : Machine) (id : Nat) : Option OpenFile :=
  machine.openFiles.lookup id

/-- Change the open file with a number. -/
def updateOpenFile (machine : Machine) (id : Nat) (change : OpenFile → OpenFile) : Machine :=
  { machine with
    openFiles := machine.openFiles.map fun entry =>
      if entry.1 = id then (id, change entry.2) else entry }

/-- Open a file under a number of its own. -/
def addOpenFile (machine : Machine) (stream : Stream) (mode : OpenMode) : Nat × Machine :=
  (machine.fresh,
    { machine with
      openFiles := (machine.fresh, ⟨stream, 0, mode⟩) :: machine.openFiles,
      fresh := machine.fresh + 1 })

/-- Open the file that a name leads to. -/
def openName
    (machine : Machine)
    (start? : Option Path)
    (name : Bytes)
    (mode : OpenMode) :
    Reply (Nat × Machine) :=
  match mode with
  | .read =>
    match machine.disk.find start? true name with
    | .ok (_, .file id) => .ok (machine.addOpenFile (.file id) mode)
    | .ok (_, .directory _) => .ok (machine.addOpenFile .directory mode)
    | .ok (_, .link _) => .error .linkLoop
    | .error error => .error error
  | _ =>
    match machine.disk.obtainFile start? machine.seconds name with
    | .ok (id, disk) =>
      let emptied := if mode = .truncate then disk.truncate id machine.seconds else disk
      .ok ({ machine with disk := emptied }.addOpenFile (.file id) mode)
    | .error error => .error error

/-- Whether a living process, or the program that drives the machine, has an open file. -/
def isInUse (machine : Machine) (openFile : Nat) : Bool :=
  machine.held.contains openFile
    || machine.processes.any fun process => process.holds openFile

/-- Whether anyone can still write into a pipe, or read from it. -/
def hasPipeEnd (machine : Machine) (pipe : Nat) (forWriting : Bool) : Bool :=
  machine.openFiles.any fun entry =>
    entry.2.stream = .pipeEnd pipe forWriting && machine.isInUse entry.1

/-- A new pipe, with the numbers of its end for reading and of its end for writing. -/
def addPipe (machine : Machine) : (Nat × Nat) × Machine :=
  let pipe := machine.fresh
  let piped := { machine with pipes := (pipe, []) :: machine.pipes, fresh := machine.fresh + 1 }
  let (reader, withReader) := piped.addOpenFile (.pipeEnd pipe false) .update
  let (writer, withWriter) := withReader.addOpenFile (.pipeEnd pipe true) .update
  ((reader, writer), withWriter)

/-- What a pipe still has to give. -/
def pipeBytes (machine : Machine) (pipe : Nat) : Bytes :=
  (machine.pipes.lookup pipe).getD []

/-- Set what a pipe still has to give. -/
def setPipe (machine : Machine) (pipe : Nat) (bytes : Bytes) : Machine :=
  { machine with
    pipes := machine.pipes.map fun entry => if entry.1 = pipe then (pipe, bytes) else entry }

/-- How much may wait in a pipe. -/
def pipeCapacity : Nat := 65536

/-- Read from an open file. There is no answer while a pipe is empty that may still be written
to. -/
def readOpen (machine : Machine) (id limit : Nat) : Option (Reply Bytes × Machine) :=
  match machine.openFile? id with
  | none => some (.error .badDescriptor, machine)
  | some opened =>
    match opened.stream with
    | .file file =>
      if opened.mode = .truncate || opened.mode = .append then
        some (.error .badDescriptor, machine)
      else
        let bytes := ((machine.disk.file? file).map File.bytes).getD []
        let taken := (bytes.drop opened.offset).take limit
        some (.ok taken,
          machine.updateOpenFile id fun o => { o with offset := o.offset + taken.length })
    | .directory => some (.error .isDirectory, machine)
    | .pipeEnd pipe false =>
      let bytes := machine.pipeBytes pipe
      if bytes.isEmpty && machine.hasPipeEnd pipe true then none
      else some (.ok (bytes.take limit), machine.setPipe pipe (bytes.drop limit))
    | .pipeEnd _ true => some (.error .badDescriptor, machine)

/-- Write to an open file. There is no answer while a pipe is full. The flag says that nobody
can read what is written. -/
def writeOpen
    (machine : Machine)
    (id : Nat)
    (bytes : Bytes) :
    Option (Reply Unit × Bool × Machine) :=
  match machine.openFile? id with
  | none => some (.error .badDescriptor, false, machine)
  | some opened =>
    match opened.stream with
    | .file file =>
      if opened.mode = .read then some (.error .badDescriptor, false, machine)
      else
        let size := ((machine.disk.file? file).map fun f => f.bytes.length).getD 0
        let offset := if opened.mode = .append then size else opened.offset
        some (.ok (), false,
          { machine with
            disk := machine.disk.writeAt file offset machine.seconds bytes }.updateOpenFile id
              fun o => { o with offset := offset + bytes.length })
    | .directory => some (.error .badDescriptor, false, machine)
    | .pipeEnd pipe true =>
      if !machine.hasPipeEnd pipe false then some (.error ⟨32⟩, true, machine)
      else if pipeCapacity ≤ (machine.pipeBytes pipe).length then none
      else some (.ok (), false, machine.setPipe pipe (machine.pipeBytes pipe ++ bytes))
    | .pipeEnd _ false => some (.error .badDescriptor, false, machine)

/-- The children of a process that nobody has asked for any more are forgotten, and those of a
process that has ended belong to nobody. -/
def adopt (machine : Machine) : Machine :=
  let isParent (id : Nat) : Bool :=
    machine.processes.any fun process => process.id = id && process.isAlive
  let settled := machine.processes.map fun process =>
    if process.parent = nobody || process.parent = 0 || isParent process.parent then process
    else { process with parent := nobody }
  { machine with
    processes := settled.filter fun process => process.isAlive || process.parent != nobody }

/-- Send a signal to the processes that a condition picks. -/
def sendWhere (machine : Machine) (picks : Process → Bool) (number : Nat) : Machine :=
  ({ machine with
    processes := machine.processes.map fun process =>
      if picks process then process.receive number else process }).adopt

/-- The processes that a number names: one process, or a group when it is negative. -/
def isTarget (sender : Process) (target : Int) (process : Process) : Bool :=
  if 0 < target then (process.id : Int) = target
  else if target = 0 then process.group = sender.group
  else if target = -1 then process.id != sender.id
  else (process.group : Int) = -target

/-- Send a signal by the number of a process or of a group. -/
def send (machine : Machine) (sender : Process) (target : Int) (number : Nat) :
    Reply Unit × Machine :=
  if Signal.greatest < number then (.error .invalid, machine)
  else if machine.processes.any (isTarget sender target) then
    (.ok (), if number = 0 then machine else machine.sendWhere (isTarget sender target) number)
  else
    (.error .noProcess, machine)

/-- The end of a process. -/
def endProcess (machine : Machine) (id : Nat) (status : ExitStatus) : Machine :=
  (machine.updateProcess id fun process => { process with progress := .ended status }).adopt

/-- Forget a process that has ended. -/
def forget (machine : Machine) (id : Nat) : Machine :=
  { machine with processes := machine.processes.filter fun process => process.id != id }

end Machine

end CompilePlayground.Posix
