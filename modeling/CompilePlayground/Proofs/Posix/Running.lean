import CompilePlayground.Posix.Spawn
import CompilePlayground.Proofs.Posix.Names

namespace CompilePlayground.Posix

/-!
# Which file is run

A command runs the first file under its program's name that can be run. A name that begins at the
root leads to the same file from every directory, and so does a name that is looked for on a path
of such names, as long as the scripts on the disk name their readers in the same way.
-/

/-- A name without a slash does not begin at the root. -/
theorem Path.isAbsolute_of_not_contains
    {name : Bytes}
    (bare : name.contains slash = false) :
    isAbsolute name = false := by
  cases name with
  | nil =>
      rfl
  | cons byte rest =>
      rw [List.contains_cons, Bool.or_eq_false_iff] at bare
      have apart : byte ≠ slash := (ne_of_beq_false bare.1).symm
      simp [isAbsolute, apart]

/-- A name that begins at the root leads to the same place from everywhere. -/
theorem Disk.find_of_isAbsolute
    {name : Bytes}
    (absolute : Path.isAbsolute name = true)
    (disk : Disk)
    (first second : Option Path)
    (follow : Bool) :
    disk.find first follow name = disk.find second follow name := by
  unfold find locate
  simp only [absolute, if_true]

namespace Launch

/-- All scripts on a disk name the programs that read them from the root on. -/
def ReadersAbsolute (disk : Disk) : Prop :=
  ∀ id file bytes reader, disk.file? id = some file → file.content = .bytes bytes →
    interpreter? bytes = some reader → Path.isAbsolute reader.name = true

/-- The number of the file that a name leads to, if it can be run as a program. -/
def runnable (disk : Disk) (start? : Option Path) (name : Bytes) : Reply Nat :=
  match program disk start? name ⟨[], []⟩ with
  | .error error => .error error
  | .ok _ => (executable disk start? name).map Prod.fst

/-- The number of the file that is run under a program's name, scripts being run only where their
readers are. -/
def fileRun (disk : Disk) (start? : Option Path) (searchPath name : Bytes) : Reply Nat :=
  search searchPath name (runnable disk start?)

section Searching

variable {α β : Type} {searchPath name : Bytes}

/-- Trying gives what it gives under the names that are tried. -/
theorem attempt_congr
    {first second : Bytes → Reply α}
    {names : List Bytes}
    (same : ∀ name ∈ names, first name = second name)
    (error : SystemError) :
    attempt first error names = attempt second error names := by
  induction names generalizing error with
  | nil =>
      rfl
  | cons name rest inductionHypothesis =>
      rw [List.forall_mem_cons] at same
      simp only [attempt, same.1, inductionHypothesis same.2]

/-- A search gives what it gives under the names that a program's name may stand for. -/
theorem search_congr
    {first second : Bytes → Reply α}
    (same : ∀ candidate ∈ candidates searchPath name, first candidate = second candidate) :
    search searchPath name first = search searchPath name second := by
  unfold search
  by_cases slashed : name.contains slash = true
  · have alone : first name = second name := by
      refine same name ?_
      simp only [candidates, slashed, if_true, List.mem_singleton]
    simp only [slashed, if_true, alone]
  · simp only [slashed, if_false, Bool.false_eq_true, attempt_congr same]

/-- What is made of all that trying may give is made of what it gives. -/
theorem attempt_map
    (start : Bytes → Reply α)
    (change : α → β)
    (error : SystemError)
    (names : List Bytes) :
    attempt (fun name => (start name).map change) error names =
      (attempt start error names).map change := by
  induction names generalizing error with
  | nil =>
      rfl
  | cons name rest inductionHypothesis =>
      rw [attempt, attempt]
      cases start name with
      | ok value =>
          rfl
      | error found =>
          have rest := inductionHypothesis (if found = .denied then .denied else error)
          simp only [Except.map] at rest ⊢
          split
          · exact rest
          · rfl

theorem search_map (start : Bytes → Reply α) (change : α → β) :
    search searchPath name (fun candidate => (start candidate).map change) =
      (search searchPath name start).map change := by
  unfold search
  rw [attempt_map]
  split
  · rfl
  · split
    · rfl
    · split <;> rfl

end Searching

variable {disk : Disk} {first second start? : Option Path} {name searchPath : Bytes}

/-- Which file may be run under a name that begins at the root does not depend on a directory. -/
theorem executable_of_isAbsolute (absolute : Path.isAbsolute name = true) :
    executable disk first name = executable disk second name := by
  unfold executable
  rw [disk.find_of_isAbsolute absolute first second]

/-- A file that may be run is on the disk. -/
theorem file?_of_executable
    {id : Nat}
    {file : File}
    (runs : executable disk start? name = .ok (id, file)) :
    disk.file? id = some file := by
  unfold executable at runs
  repeat' split at runs
  all_goals cases runs
  assumption

/-- What is run under a name that begins at the root does not depend on a directory. -/
theorem programWithin_of_isAbsolute
    (readers : ReadersAbsolute disk)
    (absolute : Path.isAbsolute name = true)
    (depth : Nat)
    (invocation : Invocation) :
    programWithin disk first depth name invocation =
      programWithin disk second depth name invocation := by
  induction depth generalizing name invocation with
  | zero =>
      rfl
  | succ depth inductionHypothesis =>
      rw [programWithin, programWithin, executable_of_isAbsolute absolute]
      cases runs : executable disk second name with
      | error error =>
          rfl
      | ok found =>
          obtain ⟨id, file⟩ := found
          simp only
          split
          · rfl
          · rfl
          next bytes holds =>
            split
            · rfl
            next reader asks =>
              have named := readers id file bytes reader (file?_of_executable runs) holds asks
              rw [inductionHypothesis named]

/-- Whether something can be run does not depend on what it is told. -/
theorem programWithin_map
    (depth : Nat)
    (told other : Invocation) :
    (programWithin disk start? depth name told).map (fun _ => ()) =
      (programWithin disk start? depth name other).map fun _ => () := by
  induction depth generalizing name told other with
  | zero =>
      rfl
  | succ depth inductionHypothesis =>
      rw [programWithin, programWithin]
      split
      · rfl
      · split
        · rfl
        · rfl
        · split
          · rfl
          · split
            · rfl
            · exact inductionHypothesis _ _

/-- What is run is run as a file that may be run. -/
theorem executable_of_program
    {invocation : Invocation}
    {started : Program}
    (leads : program disk start? name invocation = .ok started) :
    ∃ found, executable disk start? name = .ok found := by
  unfold program scriptLimit programWithin at leads
  split at leads
  · cases leads
  next found _ runs =>
    exact ⟨_, runs⟩

/-- The program that is run under a name and the file that it is run from are found together, or
neither is. -/
theorem exists_found
    (disk : Disk)
    (start? : Option Path)
    (searchPath name : Bytes)
    (invocation : Invocation) :
    ∃ found : Reply (Program × Nat),
      find disk start? searchPath name invocation = found.map Prod.fst ∧
        fileRun disk start? searchPath name = found.map Prod.snd := by
  let both (candidate : Bytes) : Reply (Program × Nat) :=
    match program disk start? candidate invocation with
    | .error error => .error error
    | .ok started => (runnable disk start? candidate).map fun id => (started, id)
  have runs (candidate : Bytes) :
      (program disk start? candidate invocation).map (fun _ => ()) =
        (runnable disk start? candidate).map fun _ => () := by
    refine (programWithin_map scriptLimit invocation ⟨[], []⟩).trans ?_
    unfold runnable
    cases leads : program disk start? candidate ⟨[], []⟩ with
    | error error =>
        unfold program at leads
        rw [leads]
        rfl
    | ok started =>
        obtain ⟨found, may⟩ := executable_of_program leads
        unfold program at leads
        rw [leads, may]
        rfl
  have halves (candidate : Bytes) :
      program disk start? candidate invocation = (both candidate).map Prod.fst ∧
        runnable disk start? candidate = (both candidate).map Prod.snd := by
    have agree := runs candidate
    simp only [both]
    cases leads : program disk start? candidate invocation with
    | error error =>
        cases file : runnable disk start? candidate with
        | error other =>
            rw [leads, file] at agree
            cases agree
            exact ⟨rfl, rfl⟩
        | ok id =>
            rw [leads, file] at agree
            cases agree
    | ok started =>
        cases file : runnable disk start? candidate with
        | error other =>
            rw [leads, file] at agree
            cases agree
        | ok id =>
            exact ⟨rfl, rfl⟩
  refine ⟨search searchPath name both, ?_, ?_⟩
  · rw [← search_map]
    exact search_congr fun candidate _ => (halves candidate).1
  · rw [← search_map]
    exact search_congr fun candidate _ => (halves candidate).2

/-- Which file is run does not depend on a directory when the program's name begins at the root, or
is looked for on a path of such names. -/
theorem fileRun_congr
    (readers : ReadersAbsolute disk)
    (searched : ∀ directory ∈ directories searchPath, Path.isAbsolute directory = true)
    (named : Path.isAbsolute name = true ∨ name.contains slash = false) :
    fileRun disk first searchPath name = fileRun disk second searchPath name := by
  refine search_congr ?_
  intro candidate listed
  have absolute : Path.isAbsolute candidate = true := by
    unfold candidates at listed
    split at listed
    next slashed =>
      rw [List.mem_singleton.1 listed]
      rcases named with absolute | bare
      · exact absolute
      · rw [slashed] at bare
        cases bare
    next bare =>
      obtain ⟨directory, member, rfl⟩ := List.mem_map.1 listed
      rw [Bool.not_eq_true] at bare
      rw [Path.isAbsolute_join directory (Path.isAbsolute_of_not_contains bare)]
      exact searched directory member
  unfold runnable program
  rw [programWithin_of_isAbsolute readers absolute, executable_of_isAbsolute absolute]

end Launch

namespace Machine

variable {machine : Machine} {host : Host} {command : Command}

/-- The number of the file that a command runs. -/
def fileRun (machine : Machine) (host : Host) (command : Command) : Reply Nat :=
  match machine.directoryOf host command with
  | .error error => .error error
  | .ok directory =>
    Launch.fileRun machine.disk (some directory) host.searchPath command.program

/-- A command that is started runs a file. -/
theorem fileRun_of_spawn
    {started : Nat × Machine}
    (starts : machine.spawn host command = .ok started) :
    ∃ id, machine.fileRun host command = .ok id := by
  unfold spawn at starts
  split at starts
  · cases starts
  unfold fileRun
  cases entered : machine.directoryOf host command with
  | error error =>
      simp [orFail, entered, bind, Except.bind] at starts
  | ok directory =>
      obtain ⟨found, program, file⟩ := Launch.exists_found machine.disk (some directory)
        host.searchPath command.program ⟨command.program :: command.arguments, host.environment⟩
      cases found with
      | error error =>
          simp [orFail, entered, program, bind, Except.bind, Except.map] at starts
      | ok found =>
          exact ⟨_, file⟩

/-- A command that runs no file cannot be started for that reason. -/
theorem spawn_of_fileRun
    {error : SystemError}
    (whole : holdsZero command = false)
    (none : machine.fileRun host command = .error error) :
    machine.spawn host command = .error (.system error) := by
  unfold spawn
  unfold fileRun at none
  simp only [whole, Bool.false_eq_true, if_false]
  cases entered : machine.directoryOf host command with
  | error error =>
      rw [entered] at none
      cases none
      rfl
  | ok directory =>
      rw [entered] at none
      obtain ⟨found, program, file⟩ := Launch.exists_found machine.disk (some directory)
        host.searchPath command.program ⟨command.program :: command.arguments, host.environment⟩
      simp only [file] at none
      cases found with
      | error error =>
          cases none
          simp only [bind, Except.bind, program, Except.map, orFail]
      | ok found =>
          cases none

end Machine

end CompilePlayground.Posix
