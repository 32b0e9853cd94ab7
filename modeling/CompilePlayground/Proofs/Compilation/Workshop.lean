import CompilePlayground.Proofs.Compilation.Call
import CompilePlayground.Proofs.Posix.Reading
import CompilePlayground.Proofs.Posix.Sharing

namespace CompilePlayground

open Posix

/-!
# Several jobs on one machine

In a `Workshop` each job is done at a `Desk` of its own, and all share one machine. The desks take
turns in any order: one step of a call at one desk, one action of a compiler at another. What
compilers do is a parameter, and so is everything that the system refuses.
-/

/-- A compiler that sees and changes nothing but what is below the directory it was started in: it
goes on from what it knows, the time, what it sees there and how things fall out, and puts a tree
there, and it may end. The links in the tree may lead anywhere. -/
structure Child (σ γ : Type) where
  start : List Bytes → σ
  act : σ → Nat → View → γ → σ × Tree × Option ExitStatus

/-- Where the directory of a job is, below the directory to work in. -/
def Job.place (base : Path) (job : Job) : Path :=
  base ++ [Text.Utf8.encode job.id]

/-- A job on its way, the directory that its compiler was started in, and what the compiler
knows. -/
structure Desk (σ : Type) where
  compilation : Compilation
  home? : Option Path
  child? : Option σ

/-- Desks that share a machine. -/
structure Workshop (σ : Type) where
  machine : Machine
  desks : List (Desk σ)

/-- What can happen at a desk: a step of the call, a refusal of what it asks for, a refusal to remove
its directory, or an action of its compiler. A refusal may leave anything in the directory. -/
inductive Desk.Deed (γ : Type) where
  | step
  | refuse (cause : IoError) (remains? : Option Tree)
  | spare (cause : IoError) (remains? : Option Tree)
  | act (choice : γ)

/-- What can happen in a workshop: something at one desk, or that time goes by. -/
inductive Workshop.Turn (γ : Type) where
  | desk (index : Nat) (deed : Desk.Deed γ)
  | wait (moment : Nat)

namespace Desk

variable {σ γ : Type}

/-- A job that nothing has been done for yet. -/
def begin (settings : CompilerSettings) (job : Job) : Desk σ :=
  ⟨Compilation.begin settings job, none, none⟩

/-- Where the directory of the job is, below the directory to work in. -/
def place (base : Path) (desk : Desk σ) : Path :=
  desk.compilation.job.place base

/-- The process of the compiler, while it is waited for. -/
def process? (desk : Desk σ) : Option Nat :=
  match desk.compilation.stage with
  | .await process _ => some process
  | _ => none

/-- Whether the directory is about to be removed. -/
def isClearing (desk : Desk σ) : Bool :=
  match desk.compilation.stage with
  | .clear _ => true
  | _ => false

/-- A desk after a step of its call. A compiler that was started knows its arguments. -/
def afterStep
    (child : Child σ γ)
    (host : Host)
    (machine : Machine)
    (desk : Desk σ)
    (stepped : Stepped) :
    Desk σ :=
  match desk.compilation.stage, stepped.compilation.stage with
  | .launch output, .await _ _ =>
    let command := desk.compilation.command output
    ⟨stepped.compilation, (machine.directoryOf host command).toOption,
      some (child.start command.arguments)⟩
  | _, _ => { desk with compilation := stepped.compilation }

/-- One step of a call. -/
def step?
    (child : Child σ γ)
    (host : Host)
    (machine : Machine)
    (desk : Desk σ) :
    Option (Machine × Desk σ) :=
  (desk.compilation.step host machine).map fun stepped =>
    (stepped.machine, desk.afterStep child host machine stepped)

/-- A machine on which a refusal has left something in the directory of a job. -/
def strew (host : Host) (machine : Machine) (desk : Desk σ) : Option Tree → Machine
  | none => machine
  | some tree =>
    match machine.disk.find (some host.directory) false desk.compilation.directory with
    | .ok (place, .directory _) => machine.withDisk (machine.disk.plant place tree)
    | _ => machine

/-- A call goes on after it was refused what it asked for. -/
def refuse?
    (host : Host)
    (machine : Machine)
    (cause : IoError)
    (remains? : Option Tree)
    (desk : Desk σ) :
    Option (Machine × Desk σ) :=
  (desk.compilation.fail cause (desk.strew host machine remains?)).map fun stepped =>
    (stepped.machine, { desk with compilation := stepped.compilation })

/-- One action of a compiler that has not ended. -/
def act?
    (child : Child σ γ)
    (machine : Machine)
    (choice : γ)
    (desk : Desk σ) :
    Option (Machine × Desk σ) :=
  match desk.process?, desk.home?, desk.child? with
  | some process, some home, some state =>
    match machine.poll process with
    | .ok none =>
      let (next, tree, status?) :=
        child.act state machine.clock (machine.disk.view home) choice
      let planted := machine.withDisk (machine.disk.plant home tree)
      let after :=
        match status? with
        | none => planted
        | some status => planted.endProcess process status
      some (after, { desk with child? := some next })
    | _ => none
  | _, _, _ => none

/-- What happens at a desk. -/
def does?
    (child : Child σ γ)
    (host : Host)
    (machine : Machine)
    (desk : Desk σ) :
    Deed γ → Option (Machine × Desk σ)
  | .step => desk.step? child host machine
  | .refuse cause remains? =>
    if desk.isClearing then none else desk.refuse? host machine cause remains?
  | .spare cause remains? =>
    if desk.isClearing then desk.refuse? host machine cause remains? else none
  | .act choice => desk.act? child machine choice

/-- What has come of the job at a desk. -/
def outcome? (desk : Desk σ) : Option Outcome :=
  desk.compilation.outcome?

end Desk

namespace Workshop.Turn

variable {γ : Type}

/-- What a turn is when there is but the one desk. Turns at other desks are left out. -/
def alone? (index : Nat) : Turn γ → Option (Turn γ)
  | .desk other deed => if other = index then some (.desk 0 deed) else none
  | .wait moment => some (.wait moment)

/-- Whether a turn refuses to remove a directory. -/
def isSparing : Turn γ → Bool
  | .desk _ (.spare _ _) => true
  | _ => false

end Workshop.Turn

namespace Workshop

variable {σ γ : Type}

/-- Jobs that nothing has been done for yet, each at a desk of its own. -/
def begin (settings : CompilerSettings) (disk : Disk) (jobs : List Job) : Workshop σ :=
  ⟨.ofDisk disk, jobs.map (Desk.begin settings)⟩

/-- A workshop after a turn. -/
def turn? (child : Child σ γ) (host : Host) (workshop : Workshop σ) :
    Turn γ → Option (Workshop σ)
  | .desk index deed => do
    let desk ← workshop.desks[index]?
    let (machine, next) ← desk.does? child host workshop.machine deed
    some ⟨machine, workshop.desks.set index next⟩
  | .wait moment =>
    some
      { workshop with
        machine := { workshop.machine with clock := max workshop.machine.clock moment } }

/-- A workshop after several turns. -/
def turns? (child : Child σ γ) (host : Host) (workshop : Workshop σ) (turns : List (Turn γ)) :
    Option (Workshop σ) :=
  turns.foldlM (turn? child host) workshop

/-- What has come of the job at one desk. -/
def outcome? (workshop : Workshop σ) (index : Nat) : Option Outcome :=
  workshop.desks[index]?.bind Desk.outcome?

end Workshop

/-- A disk on which nothing has happened but within the directories of jobs. -/
structure Undisturbed (base : Path) (jobs : List Job) (before after : Disk) : Prop where
  nodes : ∀ path, (∀ job ∈ jobs, Path.isWithin path (job.place base) = false) →
    after.node? path = before.node? path
  files : ∀ id, id < before.fresh → after.file? id = before.file? id
  fresh : before.fresh ≤ after.fresh

/-- A place to work in and the jobs to do there: the directory to work in is there and holds none
of the directories of the jobs, and the jobs have different names, each of them one plain step. -/
structure Site where
  host : Host
  settings : CompilerSettings
  disk : Disk
  base : Path
  jobs : List Job
  sound : disk.Sound
  enters : disk.Enters host.directory settings.workDirectory base
  plain : ∀ job ∈ jobs, Path.IsPlain (Text.Utf8.encode job.id)
  short : ∀ job ∈ jobs, (Text.Utf8.encode job.id).length ≤ Path.stepLimit
  vacant : ∀ job ∈ jobs, disk.node? (job.place base) = none
  distinct : (jobs.map Job.id).Nodup

namespace Site

/-- The names of the directories of all jobs. -/
def names (site : Site) (name : Bytes) : Prop :=
  ∃ job ∈ site.jobs, Text.Utf8.encode job.id = name

instance (site : Site) : DecidablePred site.names :=
  fun name => inferInstanceAs (Decidable (∃ job ∈ site.jobs, Text.Utf8.encode job.id = name))

/-- The names of the directories of all jobs but one. -/
def others (site : Site) (job : Job) (name : Bytes) : Prop :=
  ∃ other ∈ site.jobs, other.id ≠ job.id ∧ Text.Utf8.encode other.id = name

/-- A site at which nothing that the start of the compiler goes by speaks of the directory of a job:
none of the names that the compiler is looked for by, no link and no script on the disk, and not the
name of the device that the compiler reads from. -/
structure Discreet (site : Site) : Prop where
  called : ∀ name ∈ Launch.candidates site.host.searchPath
    (Text.Utf8.encode site.settings.program), Path.Avoids site.names name
  silent : Path.Avoids site.names Machine.voidDevice
  links : ∀ path target, site.disk.node? path = some (.link target) →
    Path.Avoids site.names target
  readers : ∀ path id file bytes reader, site.disk.node? path = some (.file id) →
    site.disk.file? id = some file → file.content = .bytes bytes →
      Launch.interpreter? bytes = some reader → Path.Avoids site.names reader.name

end Site

/-- A desk at which no link in the directory of the job speaks of the directory of another job. -/
def Desk.Discreet
    {σ : Type}
    (site : Site)
    (machine : Machine)
    (desk : Desk σ) :
    Prop :=
  ∀ rest target, machine.disk.node? (desk.place site.base ++ rest) = some (.link target) →
    Path.Avoids (site.others desk.compilation.job) target

namespace Workshop

variable {σ γ : Type}

/-- A workshop in which links do not speak of the directories of other jobs, wherever an output is
to be read next. -/
def Discreet (site : Site) (workshop : Workshop σ) : Prop :=
  ∀ desk ∈ workshop.desks, ∀ verdict, desk.compilation.stage = .readOutput verdict →
    desk.Discreet site workshop.machine

/-- What holds at every moment of a run. -/
def Throughout
    (child : Child σ γ)
    (host : Host)
    (holds : Workshop σ → Prop)
    (workshop : Workshop σ)
    (turns : List (Turn γ)) :
    Prop :=
  ∀ early between, early <+: turns → workshop.turns? child host early = some between →
    holds between

end Workshop

end CompilePlayground
