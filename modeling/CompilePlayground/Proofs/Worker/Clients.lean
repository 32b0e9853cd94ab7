import CompilePlayground.Proofs.Worker.Shift

namespace CompilePlayground

open Posix

/-!
# Clients that have gone away

What a worker does has nothing to do with its clients. A `Chronicle` tells of a shift all but who
is gone: what was done for which job on which machines, and what the worker is at. Of one chronicle
there is a shift for each choice of clients that are gone, and every turn takes all of these to the
shifts of one chronicle again. So clients that go away change nothing for the others, and of what
is logged only the last line of their own jobs.
-/

namespace Worker

/-- What was done for a job: its place in the queue, the machines that it was brought further on,
and what came of it. -/
structure Account where
  job : Job
  place : Nat
  machines : List Machine
  outcome : Outcome

namespace Account

/-- An account of a job that was compiled from the beginning to the end. -/
def Holds (station : Station) (account : Account) : Prop :=
  ∃ current,
    (Compilation.begin station.settings account.job).follow station.host account.machines =
        some current ∧
      current.outcome? = some account.outcome

/-- The job with its place in the queue. -/
def entry (account : Account) : Job × Nat :=
  (account.job, account.place)

/-- What was logged by the compilation of the job. -/
def logged (station : Station) (account : Account) : List LogEvent :=
  (Compilation.begin station.settings account.job).logged station.host account.machines

/-- All that was logged for the job. -/
def lines (station : Station) (gone : Nat → Bool) (account : Account) : List LogEvent :=
  received station.index account.job :: account.logged station
    ++ afterwards station.index account.job account.outcome
    ++ [replied station.index account.job (gone account.place)]

/-- What the client of the job was told. -/
def reply (gone : Nat → Bool) (account : Account) : Option Report :=
  if gone account.place then none else some (report account.outcome)

/-- The steps that were taken for the job, each with the machine that it has found. -/
def steps (account : Account) : List (Job × Machine) :=
  account.machines.map fun machine => (account.job, machine)

end Account

/-- What a worker is at, whoever is gone. -/
inductive Current where
  | idle
  | busy (job : Job) (place : Nat) (machines : List Machine) (compilation : Compilation)
  | stopped

namespace Current

/-- The job that is being compiled. -/
def entries : Current → List (Job × Nat)
  | busy job place _ _ => [(job, place)]
  | _ => []

/-- The steps that were taken for the job that is being compiled. -/
def steps : Current → List (Job × Machine)
  | busy job _ machines _ => machines.map fun machine => (job, machine)
  | _ => []

/-- What was logged since the last job. -/
def lines (station : Station) : Current → List LogEvent
  | idle => []
  | busy job _ machines _ =>
    received station.index job ::
      (Compilation.begin station.settings job).logged station.host machines
  | stopped => [ended station.index]

/-- What the worker is at when some clients are gone. -/
def activity (gone : Nat → Bool) : Current → Activity
  | idle => .idle
  | busy job place _ compilation => .busy ⟨job, gone place⟩ compilation
  | stopped => .stopped

end Current

/-- All that has happened on a shift, whoever is gone. -/
structure Chronicle where
  accounts : List Account
  current : Current
  left : List (Job × Nat)
  machine : Machine

namespace Chronicle

/-- The steps that were taken for jobs. -/
def steps (chronicle : Chronicle) : List (Job × Machine) :=
  chronicle.accounts.flatMap Account.steps ++ chronicle.current.steps

/-- What has come of the jobs when some clients are gone. -/
def progress (station : Station) (gone : Nat → Bool) (chronicle : Chronicle) : Progress :=
  ⟨chronicle.accounts.map (Account.reply gone), chronicle.machine,
    started station.index :: chronicle.accounts.flatMap (Account.lines station gone)
      ++ chronicle.current.lines station⟩

/-- The shift when some clients are gone. -/
def shift (station : Station) (gone : Nat → Bool) (chronicle : Chronicle) : Shift :=
  ⟨queueOf gone chronicle.left, chronicle.current.activity gone, chronicle.progress station gone⟩

/-- A chronicle of some jobs that tells the truth about each of them. -/
structure Sound (station : Station) (jobs : List Job) (chronicle : Chronicle) : Prop where
  order : chronicle.accounts.map Account.entry ++ chronicle.current.entries ++ chronicle.left =
    jobs.zipIdx
  accounts : ∀ account ∈ chronicle.accounts, account.Holds station
  busy : ∀ job place machines compilation,
    chronicle.current = .busy job place machines compilation →
      (Compilation.begin station.settings job).follow station.host machines = some compilation
  stopped : chronicle.current = .stopped → chronicle.left = []

/-- A turn that takes the shifts of a chronicle to those of another, whoever is gone. -/
structure Leads
    (station : Station)
    (jobs : List Job)
    (chronicle : Chronicle)
    (turn : Turn)
    (next : Chronicle) :
    Prop where
  sound : next.Sound station jobs
  shifts : ∀ gone,
    (chronicle.shift station gone).turn? station turn = some (next.shift station gone)
  steps : ∀ gone,
    chronicle.steps ++ (chronicle.shift station gone).furthered turn = next.steps

variable {station : Station} {jobs : List Job} {chronicle next : Chronicle} {turn : Turn}
  {turns : List Turn}

/-- Turns that take the shifts of a chronicle to those of another, whoever is gone. -/
structure Arrives
    (station : Station)
    (jobs : List Job)
    (chronicle : Chronicle)
    (turns : List Turn)
    (last : Chronicle) :
    Prop where
  sound : last.Sound station jobs
  shifts : ∀ gone,
    (chronicle.shift station gone).turns? station turns = some (last.shift station gone)
  steps : ∀ gone,
    chronicle.steps ++ (chronicle.shift station gone).labour station turns = last.steps

/-- After a turn come those that are left. -/
theorem Leads.cons
    {last : Chronicle}
    (leads : Leads station jobs chronicle turn next)
    (arrives : Arrives station jobs next turns last) :
    Arrives station jobs chronicle (turn :: turns) last where
  sound := arrives.sound
  shifts gone := by
    rw [Shift.turns?_cons, leads.shifts, Option.bind_some, arrives.shifts]
  steps gone := by
    rw [Shift.labour, leads.shifts]
    simp only
    rw [← List.append_assoc, leads.steps, arrives.steps]

/-- The chronicle of a shift that has just begun. -/
def start (jobs : List Job) (machine : Machine) : Chronicle :=
  ⟨[], .idle, jobs.zipIdx, machine⟩

/-- The account at some place in a chronicle is of the job at that place. -/
theorem Sound.entry_of_getElem?
    (sound : chronicle.Sound station jobs)
    {place : Nat}
    {account : Account}
    (told : chronicle.accounts[place]? = some account) :
    account.place = place ∧ jobs[place]? = some account.job := by
  have entry : (chronicle.accounts.map Account.entry)[place]? = some account.entry := by
    rw [List.getElem?_map, told, Option.map_some]
  have inside := (List.getElem?_eq_some_iff.1 entry).1
  have listed : jobs.zipIdx[place]? = some account.entry := by
    rw [← sound.order, List.append_assoc, List.getElem?_append_left inside, entry]
  rw [List.getElem?_zipIdx, Option.map_eq_some_iff] at listed
  obtain ⟨job, there, same⟩ := listed
  obtain ⟨rfl, own⟩ := Prod.mk.inj same
  exact ⟨own.symm.trans (Nat.zero_add place), there⟩

end Chronicle

/-- Two lines are the same, or they are the last lines of one job whose client is gone in one case
and present in the other. -/
def LineAlike
    (station : Station)
    (jobs : List Job)
    (gone other : Nat → Bool)
    (line twin : LogEvent) :
    Prop :=
  line = twin ∨
    ∃ place job, jobs[place]? = some job ∧ gone place ≠ other place ∧
      line = replied station.index job (gone place) ∧
      twin = replied station.index job (other place)

/-- What has come of the same jobs for two choices of clients that are gone: the same for each
client that is present in both cases, and the same lines but for the last ones of the jobs of
those that are not. -/
structure Alike
    (station : Station)
    (jobs : List Job)
    (gone other : Nat → Bool)
    (first second : Progress) :
    Prop where
  machine : first.machine = second.machine
  replies : ∀ place, gone place = false → other place = false →
    first.replies[place]? = second.replies[place]?
  events : List.Forall₂ (LineAlike station jobs gone other) first.events second.events

section Alike

variable {station : Station} {jobs : List Job} {gone other : Nat → Bool}

/-- Lines that are the same are alike. -/
theorem forall₂_lineAlike_refl (lines : List LogEvent) :
    List.Forall₂ (LineAlike station jobs gone other) lines lines :=
  List.forall₂_same.2 fun _ _ => .inl rfl

/-- The last lines of a job are alike whoever is gone. -/
theorem lineAlike_replied
    {place : Nat}
    {job : Job}
    (known : jobs[place]? = some job) :
    LineAlike station jobs gone other (replied station.index job (gone place))
      (replied station.index job (other place)) := by
  by_cases same : gone place = other place
  · exact .inl (by rw [same])
  · exact .inr ⟨place, job, known, same, rfl, rfl⟩

/-- The lines for a job are alike whoever is gone. -/
theorem Account.lines_alike
    {account : Account}
    (known : jobs[account.place]? = some account.job) :
    List.Forall₂ (LineAlike station jobs gone other) (account.lines station gone)
      (account.lines station other) :=
  List.rel_append (forall₂_lineAlike_refl _) (.cons (lineAlike_replied known) .nil)

/-- The lines for several jobs are alike whoever is gone. -/
theorem lines_alike
    {accounts : List Account}
    (known : ∀ account ∈ accounts, jobs[account.place]? = some account.job) :
    List.Forall₂ (LineAlike station jobs gone other)
      (accounts.flatMap (Account.lines station gone))
      (accounts.flatMap (Account.lines station other)) := by
  induction accounts with
  | nil =>
      exact .nil
  | cons account rest inductionHypothesis =>
      rw [List.flatMap_cons, List.flatMap_cons]
      exact List.rel_append (Account.lines_alike (known account List.mem_cons_self))
        (inductionHypothesis fun later listed => known later (List.mem_cons_of_mem _ listed))

/-- What has come of the jobs of one chronicle is alike whoever is gone. -/
theorem Chronicle.Sound.alike
    {chronicle : Chronicle}
    (sound : chronicle.Sound station jobs)
    (gone other : Nat → Bool) :
    Alike station jobs gone other (chronicle.progress station gone)
      (chronicle.progress station other) where
  machine := rfl
  replies place present there := by
    simp only [progress, List.getElem?_map]
    cases told : chronicle.accounts[place]? with
    | none =>
        rfl
    | some account =>
        obtain ⟨rfl, _⟩ := sound.entry_of_getElem? told
        simp only [Option.map_some, Account.reply, present, there]
  events := by
    have known : ∀ account ∈ chronicle.accounts,
        jobs[account.place]? = some account.job := by
      intro account told
      obtain ⟨place, told⟩ := List.mem_iff_getElem?.1 told
      obtain ⟨rfl, there⟩ := sound.entry_of_getElem? told
      exact there
    exact .cons (.inl rfl) (List.rel_append (lines_alike known) (forall₂_lineAlike_refl _))

end Alike

namespace Sample

/-- The bytes of a name or a text. -/
def bytes (text : String) : Bytes :=
  Text.Utf8.encode text

/-- What a compiler does about a source that it has read. There is one that it is satisfied with, one
that it complains about, and one for which it removes itself and sleeps. -/
def judge : Posix.Reply Bytes → Program
  | .ok [97] => .exit 0
  | .ok [98] => .call (.write 2 (bytes "no")) fun _ => .exit 1
  | _ => .call (.removeFile (bytes "/c")) fun _ => .call (.sleepUntil 5000000000) fun _ => .exit 0

/-- A compiler that reads the first byte of the source. -/
def reader : Program :=
  .call (.openFile (bytes "main.cpp") .read) fun opened =>
    .call (.read (opened.toOption.getD 0) 1) judge

/-- A directory to work in, the device that gives nothing, and the compiler. -/
def machine : Machine :=
  let bare := [[bytes "w"], [bytes "dev"]].foldl Disk.addDirectory Disk.empty
  let device : File := { content := .void, mode := 0o666, modified := 0 }
  let compiler : File := { content := .program fun _ => reader, mode := 0o755, modified := 0 }
  let equipped := (bare.addFile [bytes "dev", bytes "null"] device).2
  Machine.ofDisk (equipped.addFile [bytes "c"] compiler).2

/-- A worker that gives its compiler one second. -/
def station : Station :=
  ⟨⟨[], []⟩, ⟨"/c", [], bytes "/w", .ofSeconds 1⟩, 0⟩

/-- A job that succeeds, one that fails, one that takes too long, and one for which no compiler is
left. -/
def jobs : List Job :=
  [⟨"one", [97]⟩, ⟨"two", [98]⟩, ⟨"three", [99]⟩, ⟨"four", [97]⟩]

/-- The client of one job is gone. -/
def lost (place other : Nat) : Bool :=
  other = place

/-- What the clients are told of the jobs, unless they are gone. -/
def reports : List Report :=
  [⟨.succeeded, ""⟩, ⟨.failed (some 1), "no"⟩,
    ⟨.timedOut, "Compilation timed out after 1s\n"⟩,
    ⟨.failed none, "Fatal execution error: Failed to spawn compilation process: "
      ++ "No such file or directory (os error 2)"⟩]

end Sample

end Worker

end CompilePlayground
