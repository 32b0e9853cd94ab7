import CompilePlayground.Proofs.Compilation.Doing

namespace CompilePlayground

open Posix

/-!
# What is done for one job is not seen by another

The directories of different jobs are apart, and so are their processes. What one call relies on
stays as it is while work is done for another job.
-/

/-- Work in the directory of one of the jobs disturbs nothing. -/
theorem Undisturbed.touches
    {base : Path}
    {jobs : List Job}
    {initial before after : Disk}
    {job : Job}
    (undisturbed : Undisturbed base jobs initial before)
    (touches : Disk.Touches (job.place base) before after)
    (member : job ∈ jobs) :
    Undisturbed base jobs initial after where
  nodes path outside :=
    (touches.nodes path (outside job member)).trans (undisturbed.nodes path outside)
  files id given :=
    (touches.files id (Nat.lt_of_lt_of_le given undisturbed.fresh)).trans
      (undisturbed.files id given)
  fresh := Nat.le_trans undisturbed.fresh touches.fresh

namespace Desk

variable {σ γ : Type} {site : Site} {before after machine : Machine} {one other : Desk σ}

/-- What is seen in a directory does not change by work for another job. -/
theorem view_of_works
    {own? : Option Nat}
    {base : Path}
    (works : Machine.Works (one.place base) own? before after)
    (sound : before.disk.Sound)
    (differs : other.compilation.job.id ≠ one.compilation.job.id) :
    after.disk.view (other.place base) = before.disk.view (other.place base) := by
  funext rest
  exact works.disk.item?_eq sound (Job.isWithin_place differs)

/-- What a call relies on does not change by work for another job. -/
theorem Stands.of_works
    {own? : Option Nat}
    {base : Path}
    (stands : other.Stands base before)
    (works : Machine.Works (one.place base) own? before after)
    (sound : before.disk.Sound)
    (differs : other.compilation.job.id ≠ one.compilation.job.id)
    (apart : ∀ id, own? = some id → other.process? ≠ some id) :
    other.Stands base after := by
  have nodes (rest : Path) : after.disk.node? (other.place base ++ rest) =
      before.disk.node? (other.place base ++ rest) :=
    works.disk.nodes _ (Job.isWithin_place differs)
  have here := nodes []
  rw [List.append_nil] at here
  have view := view_of_works works sound differs
  have made : other.Made base before → other.Made base after :=
    fun made => made.of_view view.symm
  have tame : other.Tame base before → other.Tame base after := by
    unfold Tame
    rw [view]
    exact id
  unfold Stands at stands ⊢
  cases stage : other.compilation.stage with
  | makeDirectory =>
      simp only [stage] at stands ⊢
      rw [here]
      exact stands
  | writeSource =>
      simp only [stage] at stands ⊢
      refine ⟨made stands.1, fun step => ?_⟩
      rw [nodes]
      exact stands.2 step
  | openOutput =>
      simp only [stage] at stands ⊢
      refine ⟨made stands.1, tame stands.2.1, ?_⟩
      rw [nodes]
      exact stands.2.2
  | launch =>
      simp only [stage] at stands ⊢
      exact ⟨made stands.1, tame stands.2⟩
  | await process deadline =>
      simp only [stage] at stands ⊢
      obtain ⟨isMade, given, known, rest⟩ := stands
      have isProcess : other.process? = some process := by
        simp only [process?, stage]
      refine ⟨made isMade, Nat.lt_of_lt_of_le given works.fresh, ?_, rest⟩
      rw [works.processes process given fun own => apart process own isProcess]
      exact known
  | readOutput | clear =>
      simp only [stage] at stands ⊢
      exact made stands
  | done =>
      trivial

/-- A desk is in order after work for another job. -/
theorem Standing.of_works
    {own? : Option Nat}
    (standing : other.Standing site before)
    (works : Machine.Works (one.place site.base) own? before after)
    (member : one.compilation.job ∈ site.jobs)
    (differs : other.compilation.job.id ≠ one.compilation.job.id)
    (apart : ∀ id, own? = some id → other.process? ≠ some id) :
    other.Standing site after where
  sound := works.disk.sound
  bred := works.bred
  undisturbed := standing.undisturbed.touches works.disk member
  settings := standing.settings
  job := standing.job
  stands := standing.stands.of_works works standing.sound differs apart

/-- A desk is in order after what was done there. -/
theorem Standing.of_after
    {next : Desk σ}
    (standing : one.Standing site before)
    (done : After site.base before one after next) :
    next.Standing site after where
  sound := done.works.disk.sound
  bred := done.works.bred
  undisturbed := standing.undisturbed.touches done.works.disk standing.job
  settings := done.settings.trans standing.settings
  job := by
    rw [done.job]
    exact standing.job
  stands := done.stands

/-- A desk stays alike another one while work is done for another job. -/
theorem Alike.of_works
    {own? : Option Nat}
    {base : Path}
    {twin : Desk σ}
    (alike : Alike base before other machine twin)
    (works : Machine.Works (one.place base) own? before after)
    (sound : before.disk.Sound)
    (differs : other.compilation.job.id ≠ one.compilation.job.id)
    (given : ∀ id, other.process? = some id → id < before.fresh)
    (apart : ∀ id, own? = some id → other.process? ≠ some id) :
    Alike base after other machine twin where
  settings := alike.settings
  job := alike.job
  stage := by
    have stages := alike.stage
    unfold process? at given apart
    generalize other.compilation.stage = here at stages given apart
    generalize twin.compilation.stage = there at stages
    cases stages with
    | await deadline same =>
        refine .await deadline ?_
        rw [works.ending?_eq (given _ rfl) fun own => apart _ own rfl]
        exact same
    | makeDirectory => exact .makeDirectory
    | writeSource => exact .writeSource
    | openOutput => exact .openOutput
    | launch one two => exact .launch one two
    | readOutput verdict => exact .readOutput verdict
    | clear outcome => exact .clear outcome
    | done outcome => exact .done outcome
  clock := works.clock.trans alike.clock
  child? := alike.child?
  view := by
    rw [view_of_works works sound differs]
    exact alike.view

/-- The process of a desk has a number that was given. -/
theorem Standing.process_given
    (standing : one.Standing site machine)
    (id : Nat)
    (isProcess : one.process? = some id) :
    id < machine.fresh := by
  unfold process? at isProcess
  cases stage : one.compilation.stage with
  | await process deadline =>
      rw [stage] at isProcess
      cases isProcess
      exact (standing.awaiting stage).2.1
  | makeDirectory | writeSource | openOutput | launch | readOutput | clear | done =>
      rw [stage] at isProcess
      cases isProcess

end Desk

end CompilePlayground
