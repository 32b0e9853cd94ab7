import CompilePlayground.Proofs.Posix.Hosting
import CompilePlayground.Proofs.Posix.Running

namespace CompilePlayground.Posix

/-!
# What a program is told

A command passes its arguments on to the program that it is run as, in their order and after the
name of the program. A script passes them on to the program that reads it, after its own name.
-/

namespace Launch

/-- The file under a name is run as a program that is told some arguments after the name by which
it is called. -/
inductive Tells (disk : Disk) (start? : Option Path) (environment : List (Bytes × Bytes)) :
    Bytes → Bytes → List Bytes → Program → Prop where
  | program
      {name called : Bytes}
      {arguments : List Bytes}
      {id : Nat}
      {file : File}
      {start : Invocation → Program}
      (runs : executable disk start? name = .ok (id, file))
      (holds : file.content = .program start) :
      Tells disk start? environment name called arguments (start ⟨called :: arguments, environment⟩)
  | script
      {name called : Bytes}
      {arguments : List Bytes}
      {id : Nat}
      {file : File}
      {bytes : Bytes}
      {reader : Interpreter}
      {program : Program}
      (runs : executable disk start? name = .ok (id, file))
      (holds : file.content = .bytes bytes)
      (asks : interpreter? bytes = some reader)
      (told : Tells disk start? environment reader.name reader.name
        (reader.argument?.toList ++ name :: arguments) program) :
      Tells disk start? environment name called arguments program

variable {disk : Disk} {start? : Option Path} {environment : List (Bytes × Bytes)}
  {name called searchPath : Bytes} {arguments : List Bytes} {program : Program}

/-- What is run within some depth of scripts is told what it is run with. -/
theorem tells_of_programWithin
    {depth : Nat}
    (leads : programWithin disk start? depth name ⟨called :: arguments, environment⟩ =
      .ok program) :
    Tells disk start? environment name called arguments program := by
  induction depth generalizing name called arguments with
  | zero =>
      cases leads
  | succ depth inductionHypothesis =>
      unfold programWithin at leads
      split at leads
      · cases leads
      next id file runs =>
        split at leads
        next start holds =>
          cases leads
          exact .program runs holds
        · cases leads
        next bytes holds =>
          split at leads
          · cases leads
          next reader asks =>
            split at leads
            · cases leads
            · exact .script runs holds asks (inductionHypothesis leads)

/-- What is found by trying is found under one of the names that are tried. -/
theorem exists_of_attempt
    {α : Type}
    {start : Bytes → Reply α}
    {error : SystemError}
    {names : List Bytes}
    {value : α}
    (found : attempt start error names = .ok value) :
    ∃ name ∈ names, start name = .ok value := by
  induction names generalizing error with
  | nil =>
      cases found
  | cons name rest inductionHypothesis =>
      unfold attempt at found
      split at found
      next value leads =>
        cases found
        exact ⟨name, List.mem_cons_self, leads⟩
      · split at found
        · obtain ⟨other, listed, leads⟩ := inductionHypothesis found
          exact ⟨other, List.mem_cons_of_mem _ listed, leads⟩
        · cases found

/-- What a search finds it finds under one of the names that a program's name may stand for. -/
theorem exists_of_search
    {α : Type}
    {start : Bytes → Reply α}
    {value : α}
    (found : search searchPath name start = .ok value) :
    ∃ candidate ∈ candidates searchPath name, start candidate = .ok value := by
  unfold search at found
  split at found
  · cases found
  split at found
  next slashed =>
    refine ⟨name, ?_, found⟩
    rw [candidates, if_pos slashed]
    exact List.mem_singleton_self name
  split at found
  · cases found
  · exact exists_of_attempt found

/-- A program that is found is told what it is looked for with. -/
theorem tells_of_find
    (found : find disk start? searchPath name ⟨called :: arguments, environment⟩ = .ok program) :
    ∃ candidate ∈ candidates searchPath name,
      Tells disk start? environment candidate called arguments program := by
  obtain ⟨candidate, listed, leads⟩ := exists_of_search found
  exact ⟨candidate, listed, tells_of_programWithin leads⟩

/-- Whether a program is found does not depend on what it is to be told. -/
theorem find_of_find
    {told : Invocation}
    (found : find disk start? searchPath name told = .ok program)
    (other : Invocation) :
    ∃ program, find disk start? searchPath name other = .ok program := by
  obtain ⟨first, finds, runs⟩ := exists_found disk start? searchPath name told
  obtain ⟨second, findsOther, runsOther⟩ := exists_found disk start? searchPath name other
  rw [finds] at found
  rw [runs] at runsOther
  rw [findsOther]
  cases first with
  | error error =>
      cases found
  | ok both =>
      cases second with
      | error error =>
          cases runsOther
      | ok both =>
          exact ⟨_, rfl⟩

end Launch

/-- A process runs the program that a host finds on a disk under a name, and the program is told
some arguments after the name. -/
def Process.IsTold
    (process : Process)
    (host : Host)
    (disk : Disk)
    (called : Bytes)
    (arguments : List Bytes) :
    Prop :=
  ∃ directory, ∃ name ∈ Launch.candidates host.searchPath called, ∃ program,
    process.progress = .running program ∧
      Launch.Tells disk (some directory) host.environment name called arguments program

namespace Machine

variable {machine : Machine} {host : Host} {command : Command}

/-- The process of a command that is started is told the arguments of the command. -/
theorem told_of_spawn
    {started : Nat × Machine}
    (starts : machine.spawn host command = .ok started) :
    ∃ process ∈ started.2.processes, process.id = started.1 ∧
      process.IsTold host machine.disk command.program command.arguments := by
  obtain ⟨_, directory, program, input, opened, _, found, _, rfl⟩ := spawn_eq_ok.1 starts
  obtain ⟨name, listed, tells⟩ := Launch.tells_of_find found
  exact ⟨launched command directory program input opened,
    List.mem_append_right _ (List.mem_singleton_self _), rfl, directory, name, listed, program, rfl,
    tells⟩

/-- Arguments without zero bytes do not keep a command from being started. -/
theorem spawns_of_arguments
    {started : Nat × Machine}
    (starts : machine.spawn host command = .ok started)
    {arguments : List Bytes}
    (whole : ∀ argument ∈ arguments, 0 ∉ argument) :
    ∃ started, machine.spawn host { command with arguments } = .ok started := by
  obtain ⟨clean, directory, program, input, opened, entered, found, opens, _⟩ :=
    spawn_eq_ok.1 starts
  obtain ⟨other, findsOther⟩ := Launch.find_of_find found
    ⟨command.program :: arguments, host.environment⟩
  have cleanOther : holdsZero { command with arguments } = false := by
    have noZero : arguments.any (·.contains 0) = false := by
      simpa [List.any_eq_false] using whole
    unfold holdsZero at clean ⊢
    rw [Bool.or_eq_false_iff, Bool.or_eq_false_iff] at clean ⊢
    exact ⟨⟨clean.1.1, noZero⟩, clean.2⟩
  exact spawns_of_found cleanOther entered findsOther opens

end Machine

end CompilePlayground.Posix
