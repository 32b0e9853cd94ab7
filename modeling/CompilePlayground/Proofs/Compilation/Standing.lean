import CompilePlayground.Proofs.Compilation.Workshop

namespace CompilePlayground

open Posix

/-!
# What stands at a desk

At each of its stages a call relies on what stands in its own directory and on its own process, and
a desk that is `Standing` has both. Two desks of the same job are `Alike` when nothing that the
call goes by tells them apart, whatever numbers the machines have given.
-/

/-- What is seen in a directory before a compiler has been there: no link, and no file that may be
run. -/
structure Posix.View.IsTame (view : View) : Prop where
  unlinked : ∀ rest target, view rest ≠ some (.link target)
  inert : ∀ rest file, view rest = some (.file file) → file.isExecutable = false

/-- Nobody may run a file that is made without saying more. -/
theorem Posix.File.isExecutable_of_standardMode
    {file : File}
    (standard : file.mode = Disk.standardMode) :
    file.isExecutable = false := by
  unfold File.isExecutable
  rw [standard]
  decide

/-- A directory stays tame when a file comes there that may not be run. -/
theorem Posix.View.IsTame.update
    {view : View}
    {path : Path}
    {file : File}
    (tame : view.IsTame)
    (inert : file.isExecutable = false) :
    View.IsTame (Function.update view path (some (.file file))) where
  unlinked rest target seen := by
    rw [Function.update_apply] at seen
    split at seen
    · cases seen
    · exact tame.unlinked rest target seen
  inert rest other seen := by
    rw [Function.update_apply] at seen
    split at seen
    · cases seen
      exact inert
    · exact tame.inert rest other seen

/-- What stands outside of the directories of jobs is still there. -/
theorem Undisturbed.kept
    {base : Path}
    {jobs : List Job}
    {before after : Disk}
    (undisturbed : Undisturbed base jobs before after)
    (sound : before.Sound)
    (vacant : ∀ job ∈ jobs, before.node? (job.place base) = none)
    (path : Path)
    (node : Node)
    (found : before.node? path = some node) :
    after.node? path = some node := by
  rw [undisturbed.nodes path fun job member => sound.not_isWithin_vacant (vacant job member) found]
  exact found

namespace Desk

variable {σ γ : Type}

/-- A directory is there, under a name that the system takes. -/
structure IsMade (disk : Disk) (place : Path) (name : Bytes) : Prop where
  directory : ∃ id, disk.node? place = some (.directory id)
  whole : name.contains 0 = false
  usable : Path.IsUsable name

/-- The directory of a job is there. -/
def Made (base : Path) (machine : Machine) (desk : Desk σ) : Prop :=
  IsMade machine.disk (desk.place base) desk.compilation.directory

/-- No compiler has been in the directory of a job. -/
def Tame (base : Path) (machine : Machine) (desk : Desk σ) : Prop :=
  View.IsTame (machine.disk.view (desk.place base))

/-- What a call relies on at each of its stages. -/
def Stands (base : Path) (machine : Machine) (desk : Desk σ) : Prop :=
  match desk.compilation.stage with
  | .makeDirectory => machine.disk.node? (desk.place base) = none
  | .writeSource =>
    desk.Made base machine ∧
      ∀ step, machine.disk.node? (desk.place base ++ [step]) = none
  | .openOutput =>
    desk.Made base machine ∧ desk.Tame base machine ∧
      machine.disk.node?
        (desk.place base ++ [Text.Utf8.encode Compilation.outputName]) = none
  | .launch _ => desk.Made base machine ∧ desk.Tame base machine
  | .await process _ =>
    desk.Made base machine ∧ process < machine.fresh ∧
      (machine.process? process).isSome = true ∧
        desk.home? = some (desk.place base) ∧ desk.child?.isSome = true
  | .readOutput _ | .clear _ => desk.Made base machine
  | .done _ => True

/-- The directory of a job is not the root. -/
theorem place_ne_nil (base : Path) (desk : Desk σ) : desk.place base ≠ [] := by
  simp [place, Job.place]

/-- A desk of a site at which all is in order. -/
structure Standing (site : Site) (machine : Machine) (desk : Desk σ) : Prop where
  sound : machine.disk.Sound
  bred : machine.Bred
  undisturbed : Undisturbed site.base site.jobs site.disk machine.disk
  settings : desk.compilation.settings = site.settings
  job : desk.compilation.job ∈ site.jobs
  stands : desk.Stands site.base machine

/-- What has come of work at a desk. -/
structure After
    (base : Path)
    (before : Machine)
    (desk : Desk σ)
    (after : Machine)
    (next : Desk σ) :
    Prop where
  works : Machine.Works (desk.place base) desk.process? before after
  stands : next.Stands base after
  settings : next.compilation.settings = desk.compilation.settings
  job : next.compilation.job = desk.compilation.job
  process : ∀ id, next.process? = some id → desk.process? = some id ∨ before.fresh ≤ id

/-- Two stages that differ in nothing but numbers, and in the processes no more than in theirs. -/
inductive AlikeStage (ended : Nat → Nat → Prop) : Stage → Stage → Prop where
  | makeDirectory :
      AlikeStage ended .makeDirectory .makeDirectory
  | writeSource :
      AlikeStage ended .writeSource .writeSource
  | openOutput :
      AlikeStage ended .openOutput .openOutput
  | launch
      (one two : Nat) :
      AlikeStage ended (.launch one) (.launch two)
  | await
      {one two : Nat}
      (deadline : Nat)
      (same : ended one two) :
      AlikeStage ended (.await one deadline) (.await two deadline)
  | readOutput
      (verdict : Verdict) :
      AlikeStage ended (.readOutput verdict) (.readOutput verdict)
  | clear
      (outcome : Outcome) :
      AlikeStage ended (.clear outcome) (.clear outcome)
  | done
      (outcome : Outcome) :
      AlikeStage ended (.done outcome) (.done outcome)

/-- Two desks of the same job, on two machines, that nothing tells apart which the call or its
compiler goes by. -/
structure Alike
    (base : Path)
    (first : Machine)
    (one : Desk σ)
    (second : Machine)
    (two : Desk σ) :
    Prop where
  settings : one.compilation.settings = two.compilation.settings
  job : one.compilation.job = two.compilation.job
  stage : AlikeStage (fun process other => first.ending? process = second.ending? other)
    one.compilation.stage two.compilation.stage
  clock : first.clock = second.clock
  child? : one.child? = two.child?
  view : first.disk.view (one.place base) = second.disk.view (one.place base)

/-- What comes of two desks that do the same: nothing for both, or for both the like. -/
inductive Matches
    (base : Path)
    (first : Machine)
    (one : Desk σ)
    (second : Machine)
    (two : Desk σ) :
    Option (Machine × Desk σ) → Option (Machine × Desk σ) → Prop where
  | none :
      Matches base first one second two none none
  | some
      {firstAfter secondAfter : Machine}
      {oneNext twoNext : Desk σ}
      (alike : Alike base firstAfter oneNext secondAfter twoNext)
      (afterOne : After base first one firstAfter oneNext)
      (afterTwo : After base second two secondAfter twoNext) :
      Matches base first one second two (some (firstAfter, oneNext)) (some (secondAfter, twoNext))

namespace Standing

variable {site : Site} {machine : Machine} {desk : Desk σ}

/-- What stands outside of the directories of jobs is still there. -/
theorem kept
    (standing : desk.Standing site machine)
    (path : Path)
    (node : Node)
    (found : site.disk.node? path = some node) :
    machine.disk.node? path = some node :=
  standing.undisturbed.kept site.sound site.vacant path node found

theorem directory_eq
    (standing : desk.Standing site machine) :
    desk.compilation.directory =
      Path.join site.settings.workDirectory (Text.Utf8.encode desk.compilation.job.id) := by
  unfold Compilation.directory
  rw [standing.settings]

theorem trimmed_directory
    (standing : desk.Standing site machine) :
    Path.trimmed desk.compilation.directory = desk.compilation.directory := by
  rw [standing.directory_eq]
  exact (site.plain _ standing.job).trimmed_join _

/-- The directory of a job has a name. -/
theorem directory_ne_nil
    (standing : desk.Standing site machine) :
    desk.compilation.directory ≠ [] := by
  rw [standing.directory_eq]
  obtain ⟨front, split⟩ := Path.exists_join_eq_append site.settings.workDirectory
    (Text.Utf8.encode desk.compilation.job.id)
  rw [split]
  simp [(site.plain _ standing.job).named]

/-- A directory that was not made yet is awaited. -/
theorem awaits
    (standing : desk.Standing site machine)
    (vacant : machine.disk.node? (desk.place site.base) = none) :
    machine.disk.Awaits site.host.directory desk.compilation.directory (desk.place site.base) := by
  rw [standing.directory_eq]
  exact site.enters.awaits_join (site.plain _ standing.job) (site.short _ standing.job)
    standing.kept vacant

theorem leads
    (standing : desk.Standing site machine)
    (made : desk.Made site.base machine) :
    machine.disk.Leads site.host.directory desk.compilation.directory (desk.place site.base) := by
  rw [standing.directory_eq]
  exact site.enters.leads_join (site.plain _ standing.job) (site.short _ standing.job)
    standing.kept made.directory

theorem base_directory
    (standing : desk.Standing site machine) :
    ∃ id, machine.disk.node? site.base = some (.directory id) := by
  obtain ⟨id, found⟩ := site.enters.node?_eq
  exact ⟨id, standing.kept _ _ found⟩

/-- Nothing stands where a directory is still to be made. -/
theorem vacant
    (standing : desk.Standing site machine)
    (stage : desk.compilation.stage = .makeDirectory) :
    machine.disk.node? (desk.place site.base) = none := by
  have stands := standing.stands
  unfold Stands at stands
  rw [stage] at stands
  exact stands

/-- A directory that was just made is empty. -/
theorem bare
    (standing : desk.Standing site machine)
    (stage : desk.compilation.stage = .writeSource) :
    desk.Made site.base machine ∧
      ∀ step, machine.disk.node? (desk.place site.base ++ [step]) = none := by
  have stands := standing.stands
  unfold Stands at stands
  rw [stage] at stands
  exact stands

/-- The file for the output is not there before it is opened. -/
theorem unopened
    (standing : desk.Standing site machine)
    (stage : desk.compilation.stage = .openOutput) :
    desk.Made site.base machine ∧ desk.Tame site.base machine ∧
      machine.disk.node?
        (desk.place site.base ++ [Text.Utf8.encode Compilation.outputName]) = none := by
  have stands := standing.stands
  unfold Stands at stands
  rw [stage] at stands
  exact stands

/-- No compiler has been in the directory before the compiler is started. -/
theorem ready
    {output : Nat}
    (standing : desk.Standing site machine)
    (stage : desk.compilation.stage = .launch output) :
    desk.Made site.base machine ∧ desk.Tame site.base machine := by
  have stands := standing.stands
  unfold Stands at stands
  rw [stage] at stands
  exact stands

/-- A compiler that is waited for has its directory and is known. -/
theorem awaiting
    {process deadline : Nat}
    (standing : desk.Standing site machine)
    (stage : desk.compilation.stage = .await process deadline) :
    desk.Made site.base machine ∧ process < machine.fresh ∧
      (machine.process? process).isSome = true ∧
        desk.home? = some (desk.place site.base) ∧ desk.child?.isSome = true := by
  have stands := standing.stands
  unfold Stands at stands
  rw [stage] at stands
  exact stands

end Standing

/-- A directory that was made is there as long as all looks the same below it. -/
theorem IsMade.of_view
    {before after : Disk}
    {place : Path}
    {name : Bytes}
    (made : IsMade before place name)
    (same : before.view place = after.view place) :
    IsMade after place name where
  directory := Disk.directory_of_view same made.directory
  whole := made.whole
  usable := made.usable

end Desk

end CompilePlayground
