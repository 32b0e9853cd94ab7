import CompilePlayground.Proofs.Posix.Housing
import CompilePlayground.Posix.Spawn

namespace CompilePlayground.Posix.Machine

/-!
# What a host does to a disk

Whatever a host asks of its machine is either refused, or changes the disk in one way that is
told here. Starting and killing processes changes no disk.
-/

open Disk

variable {machine next : Machine} {host : Host} {name child : Bytes} {place : Path}

/-- What comes of a result when it is changed is the change of what came before. -/
private theorem map_eq_ok
    {α β : Type}
    {change : α → β}
    {result : Except IoError α}
    {value : β} :
    result.map change = .ok value ↔ ∃ before, result = .ok before ∧ change before = value := by
  cases result <;> simp [Except.map]

/-- What is done with a name that is done at all. -/
theorem withName_eq_ok
    {α : Type}
    {act : Bytes → Reply α}
    {value : α} :
    withName name act = .ok value ↔ name.contains 0 = false ∧ act name = .ok value := by
  unfold withName orFail
  cases name.contains 0 <;> cases act name <;> simp

theorem createDirectories_eq_ok :
    machine.createDirectories host name = .ok next ↔
      name.contains 0 = false ∧
        ∃ disk, machine.disk.createDirectories (some host.directory) name = .ok disk ∧
          machine.withDisk disk = next := by
  simp only [createDirectories, map_eq_ok, withName_eq_ok, and_assoc, exists_and_left]

/-- A directory that could not be made leaves some of those above it. -/
theorem interrupted_afterFailedDirectories
    {cause : IoError}
    (failed : machine.createDirectories host name = .error cause) :
    ∃ disk, Interrupted machine.disk host.directory name disk ∧
      machine.afterFailedDirectories host name = machine.withDisk disk := by
  unfold afterFailedDirectories
  split
  · exact ⟨machine.disk, .first name, rfl⟩
  next whole =>
    refine ⟨_, ?_, rfl⟩
    unfold createDirectories withName at failed
    rw [if_neg whole] at failed
    simp only [Disk.createDirectories] at failed
    generalize outcome : machine.disk.tryDirectories (some host.directory) name = result
      at failed ⊢
    obtain ⟨left, _ | _⟩ := result
    · exact .of_tryDirectories outcome
    · cases failed

theorem fillFile_eq_ok
    {bytes : Bytes} :
    machine.fillFile host name bytes = .ok next ↔
      name.contains 0 = false ∧
        ∃ disk, machine.disk.write (some host.directory) machine.seconds name bytes = .ok disk ∧
          machine.withDisk disk = next := by
  simp only [fillFile, map_eq_ok, withName_eq_ok, and_assoc, exists_and_left]

theorem removeTree_eq_ok :
    machine.removeTree host name = .ok next ↔
      name.contains 0 = false ∧
        ∃ disk, machine.disk.removeTree (some host.directory) name = .ok disk ∧
          machine.withDisk disk = next := by
  simp only [removeTree, map_eq_ok, withName_eq_ok, and_assoc, exists_and_left]

theorem withName_of_contains
    {α : Type}
    (zero : name.contains 0 = true)
    (act : Bytes → Reply α) :
    withName name act = .error (.custom "file name contained an unexpected NUL byte") := by
  unfold withName
  rw [if_pos zero]

theorem withName_of_not_contains
    {α : Type}
    (whole : name.contains 0 = false)
    (act : Bytes → Reply α) :
    withName name act = orFail (act name) := by
  unfold withName
  rw [if_neg (by simpa using whole)]

/-- The name of a directory is refused whatever is there, and nothing is made, or the directory is
made wherever it is awaited. -/
theorem createDirectories_cases
    (named : name ≠ []) :
    (∃ cause, ∀ (machine : Machine) (host : Host),
      machine.createDirectories host name = .error cause ∧
        machine.afterFailedDirectories host name = machine) ∨
    name.contains 0 = false ∧ Path.IsUsable (Path.trimmed name) ∧
      ∀ (machine : Machine) (host : Host) (place : Path),
        machine.disk.Awaits host.directory name place →
          machine.createDirectories host name =
            .ok (machine.withDisk (machine.disk.addDirectory place)) := by
  unfold createDirectories afterFailedDirectories
  cases zero : name.contains 0 with
  | true =>
      exact .inl ⟨_, fun _ _ => ⟨by rw [withName_of_contains zero]; rfl, rfl⟩⟩
  | false =>
      by_cases usable : Path.IsUsable (Path.trimmed name)
      · refine .inr ⟨rfl, usable, fun machine host place awaits => ?_⟩
        rw [withName_of_not_contains zero, awaits.createDirectories_eq named usable]
        rfl
      · obtain ⟨error, refused⟩ := tryDirectories_of_not_isUsable named usable
        refine .inl ⟨.system error, fun machine host => ⟨?_, ?_⟩⟩
        · rw [withName_of_not_contains zero]
          unfold Disk.createDirectories
          rw [refused]
          rfl
        · simp only [refused]
          rfl

/-- The name of a file is refused whatever is there, or the file is made in every directory where
nothing has its name. -/
theorem fillFile_cases
    (plain : Path.IsPlain child)
    (short : child.length ≤ Path.stepLimit)
    (name : Bytes) :
    (∃ cause, ∀ (machine : Machine) (host : Host) (bytes : Bytes),
      machine.fillFile host (Path.join name child) bytes = .error cause) ∨
    ∀ (machine : Machine) (host : Host) (bytes : Bytes) (place : Path),
      machine.disk.Leads host.directory name place →
        machine.disk.node? (place ++ [child]) = none →
          ∃ disk, machine.fillFile host (Path.join name child) bytes = .ok (machine.withDisk disk) ∧
            Gains (place ++ [child])
              { content := .bytes bytes, mode := standardMode, modified := machine.seconds }
              machine.disk disk := by
  unfold fillFile
  cases zero : (Path.join name child).contains 0 with
  | true =>
      exact .inl ⟨_, fun _ _ _ => by rw [withName_of_contains zero]; rfl⟩
  | false =>
      by_cases usable : Path.IsUsable (Path.join name child)
      · refine .inr fun machine host bytes place leads vacant => ?_
        obtain ⟨disk, written, gains⟩ :=
          leads.write_eq plain short vacant usable machine.seconds bytes
        refine ⟨disk, ?_, gains⟩
        rw [withName_of_not_contains zero, written]
        rfl
      · obtain ⟨error, nowhere⟩ := obtainFile_of_not_isUsable usable
        refine .inl ⟨.system error, fun machine host bytes => ?_⟩
        rw [withName_of_not_contains zero]
        unfold write
        rw [nowhere]
        rfl

/-- The name of a file is refused whatever is there, or the file is made and opened in every
directory where nothing has its name. -/
theorem openEmptied_cases
    (plain : Path.IsPlain child)
    (short : child.length ≤ Path.stepLimit)
    (name : Bytes) :
    (∃ cause, ∀ (machine : Machine) (host : Host),
      machine.openEmptied host (Path.join name child) = .error cause) ∨
    ∀ (machine : Machine) (host : Host) (place : Path),
      machine.disk.Leads host.directory name place →
        machine.disk.node? (place ++ [child]) = none →
          ∃ disk, machine.openEmptied host (Path.join name child) =
              .ok ((machine.withDisk disk).addOpenFile (.file machine.disk.fresh) .truncate) ∧
            Gains (place ++ [child])
              { content := .bytes [], mode := standardMode, modified := machine.seconds }
              machine.disk disk := by
  unfold openEmptied
  cases zero : (Path.join name child).contains 0 with
  | true =>
      exact .inl ⟨_, fun _ _ => withName_of_contains zero _⟩
  | false =>
      by_cases usable : Path.IsUsable (Path.join name child)
      · refine .inr fun machine host place leads vacant => ?_
        have named : place ++ [child] ≠ [] := by
          simp
        have added := gains_addFile machine.disk named
          { content := .bytes [], mode := standardMode, modified := machine.seconds }
        refine ⟨_, ?_, (added.updateFile (File.emptied machine.seconds)).of_eq rfl⟩
        rw [withName_of_not_contains zero]
        unfold openName
        rw [leads.obtainFile_eq plain short vacant usable]
        rfl
      · obtain ⟨error, nowhere⟩ := obtainFile_of_not_isUsable usable
        refine .inl ⟨.system error, fun machine host => ?_⟩
        rw [withName_of_not_contains zero]
        unfold openName
        rw [nowhere]
        rfl

/-- A file that is filled in a directory where nothing had its name is a new one. -/
theorem gains_of_fillFile
    (leads : machine.disk.Leads host.directory name place)
    (plain : Path.IsPlain child)
    (short : child.length ≤ Path.stepLimit)
    (vacant : machine.disk.node? (place ++ [child]) = none)
    {bytes : Bytes}
    (filled : machine.fillFile host (Path.join name child) bytes = .ok next) :
    Gains (place ++ [child])
      { content := .bytes bytes, mode := standardMode, modified := machine.seconds }
      machine.disk next.disk := by
  rcases fillFile_cases plain short name with ⟨cause, refused⟩ | fills
  · rw [refused] at filled
    cases filled
  · obtain ⟨disk, same, gains⟩ := fills machine host bytes place leads vacant
    rw [same] at filled
    cases filled
    exact gains

/-- A file that is opened and emptied in a directory where nothing had its name is a new one. -/
theorem gains_of_openEmptied
    (leads : machine.disk.Leads host.directory name place)
    (plain : Path.IsPlain child)
    (short : child.length ≤ Path.stepLimit)
    (vacant : machine.disk.node? (place ++ [child]) = none)
    {opened : Nat × Machine}
    (made : machine.openEmptied host (Path.join name child) = .ok opened) :
    Gains (place ++ [child])
      { content := .bytes [], mode := standardMode, modified := machine.seconds }
      machine.disk opened.2.disk := by
  rcases openEmptied_cases plain short name with ⟨cause, refused⟩ | opens
  · rw [refused] at made
    cases made
  · obtain ⟨disk, same, gains⟩ := opens machine host place leads vacant
    rw [same] at made
    cases made
    exact gains

/-- A directory whose name is taken can be taken away wherever it is. -/
theorem removeTree_eq
    (whole : name.contains 0 = false)
    (usable : Path.IsUsable name)
    (leads : machine.disk.Leads host.directory name place)
    (named : place ≠ []) :
    machine.removeTree host name = .ok (machine.withDisk (machine.disk.eraseTree place)) := by
  obtain ⟨id, found⟩ := leads.find_eq usable false
  have removed : machine.disk.removeTree (some host.directory) name =
      .ok (machine.disk.eraseTree place) := by
    unfold Disk.removeTree
    rw [found]
    simp [named]
  unfold removeTree
  rw [withName_of_not_contains whole, removed]
  rfl

/-- A command that names a directory is run where the name leads. -/
theorem directoryOf_eq
    (leads : machine.disk.Leads host.directory name place)
    {command : Command}
    (named : command.directory? = some name)
    {directory : Path}
    (entered : machine.directoryOf host command = .ok directory) :
    directory = place := by
  unfold directoryOf at entered
  rw [named] at entered
  by_cases usable : Path.IsUsable name
  · obtain ⟨id, found⟩ := leads.find_eq usable true
    simp only [found] at entered
    cases entered
    rfl
  · obtain ⟨error, nowhere⟩ := locate_of_not_isUsable usable
    simp only [find, nowhere] at entered
    cases entered

/-- A command that names a directory is run where the directory is found. -/
theorem find_of_directoryOf
    {command : Command}
    (named : command.directory? = some name)
    {directory : Path}
    (entered : machine.directoryOf host command = .ok directory) :
    ∃ id, machine.disk.find (some host.directory) true name = .ok (directory, .directory id) := by
  unfold directoryOf at entered
  rw [named] at entered
  simp only at entered
  split at entered
  next path id found =>
    cases entered
    exact ⟨id, found⟩
  · cases entered
  · cases entered

/-- A machine on which a command has been started as the process with a number. -/
structure Spawned
    (host : Host)
    (command : Command)
    (before : Machine)
    (id : Nat)
    (after : Machine) :
    Prop where
  disk : after.disk = before.disk
  clock : after.clock = before.clock
  given : before.fresh ≤ id
  fresh : after.fresh = id + 1
  entered : ∃ directory, before.directoryOf host command = .ok directory
  processes : ∃ process, after.processes = before.processes ++ [process] ∧
    process.id = id ∧ process.parent = hostId ∧
      (command.leads = true → process.group = id) ∧ process.ending? = none

/-- Opening a name for reading opens a file and does nothing else. -/
theorem openName_read_eq
    {start? : Option Path}
    {opened : Nat × Machine}
    (opens : machine.openName start? name .read = .ok opened) :
    ∃ stream, opened = machine.addOpenFile stream .read := by
  unfold openName at opens
  simp only at opens
  split at opens <;> cases opens <;> exact ⟨_, rfl⟩

/-- A process as it is when a command has just been started from a directory. -/
structure IsLaunched
    (command : Command)
    (before : Machine)
    (directory : Path)
    (process : Process) :
    Prop where
  id : process.id = before.fresh + 1
  parent : process.parent = hostId
  group : command.leads = true → process.group = process.id
  ending : process.ending? = none
  directory : process.directory = directoryId before.disk directory
  output : process.openFile? 1 = some command.output
  errors : process.openFile? 2 = some command.errors

/-- The process that a command is started as on a machine where it reads from an open file. -/
def launched
    (command : Command)
    (directory : Path)
    (program : Program)
    (input : Nat)
    (opened : Machine) :
    Process :=
  { id := opened.fresh,
    parent := hostId,
    group := if command.leads then opened.fresh else hostId,
    directory := directoryId opened.disk directory,
    descriptors := [(0, input), (1, command.output), (2, command.errors)],
    dispositions := [],
    caught := [],
    progress := .running program }

/-- A command is started exactly when it holds no zero byte and its directory, its program and the
device to read from are found. -/
theorem spawn_eq_ok
    {command : Command}
    {started : Nat × Machine} :
    machine.spawn host command = .ok started ↔
      holdsZero command = false ∧ ∃ directory program input opened,
        machine.directoryOf host command = .ok directory ∧
        Launch.find machine.disk (some directory) host.searchPath command.program
          ⟨command.program :: command.arguments, host.environment⟩ = .ok program ∧
        machine.openName (some []) voidDevice .read = .ok (input, opened) ∧
        (opened.fresh,
          { opened with
            processes := opened.processes ++ [launched command directory program input opened],
            fresh := opened.fresh + 1 }) = started := by
  unfold spawn
  cases holdsZero command with
  | true =>
      simp
  | false =>
      simp only [Bool.false_eq_true, if_false, true_and]
      cases machine.directoryOf host command with
      | error error =>
          simp [orFail, bind, Except.bind]
      | ok directory =>
          cases found : Launch.find machine.disk (some directory) host.searchPath command.program
              ⟨command.program :: command.arguments, host.environment⟩ with
          | error error =>
              simp [orFail, found, bind, Except.bind]
          | ok program =>
              cases machine.openName (some []) voidDevice .read with
              | error error =>
                  simp [orFail, found, bind, Except.bind]
              | ok opened =>
                  obtain ⟨input, opened⟩ := opened
                  simp [orFail, found, bind, Except.bind, launched]

/-- A command that can be started runs where its directory is, with one more file opened and nothing
else done. -/
theorem launched_of_spawn
    {command : Command}
    {started : Nat × Machine}
    (starts : machine.spawn host command = .ok started) :
    ∃ directory stream process, machine.directoryOf host command = .ok directory ∧
      started.2 =
        { (machine.addOpenFile stream .read).2 with
          processes := machine.processes ++ [process], fresh := machine.fresh + 2 } ∧
      process.id = started.1 ∧ IsLaunched command machine directory process := by
  obtain ⟨_, directory, program, input, opened, entered, _, opens, rfl⟩ := spawn_eq_ok.1 starts
  obtain ⟨stream, same⟩ := openName_read_eq opens
  cases same
  refine ⟨directory, stream, _, entered, rfl, rfl, ?_⟩
  exact
    { id := rfl
      parent := rfl
      group := fun leads => if_pos leads
      ending := rfl
      directory := rfl
      output := rfl
      errors := rfl }

/-- A command that can be started is started as one more process. -/
theorem spawned_of_spawn
    {command : Command}
    {started : Nat × Machine}
    (starts : machine.spawn host command = .ok started) :
    Spawned host command machine started.1 started.2 := by
  obtain ⟨id, after⟩ := started
  obtain ⟨directory, stream, process, entered, rfl, rfl, launched⟩ := launched_of_spawn starts
  exact
    { disk := rfl
      clock := rfl
      given := by
        rw [launched.id]
        exact Nat.le_succ _
      fresh := by rw [launched.id]
      entered := ⟨directory, entered⟩
      processes := ⟨process, rfl, rfl, launched.parent, launched.group, launched.ending⟩ }

/-- A command is started once its directory, its program and the device to read from are found. -/
theorem spawns_of_found
    {command : Command}
    {directory : Path}
    {program : Program}
    {opened : Nat × Machine}
    (whole : holdsZero command = false)
    (entered : machine.directoryOf host command = .ok directory)
    (found : Launch.find machine.disk (some directory) host.searchPath command.program
      ⟨command.program :: command.arguments, host.environment⟩ = .ok program)
    (opens : machine.openName (some []) voidDevice .read = .ok opened) :
    ∃ started, machine.spawn host command = .ok started := by
  exact ⟨_, spawn_eq_ok.2
    ⟨whole, directory, program, opened.1, opened.2, entered, found, opens, rfl⟩⟩

end CompilePlayground.Posix.Machine
