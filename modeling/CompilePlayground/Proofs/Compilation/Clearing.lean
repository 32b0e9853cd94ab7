import CompilePlayground.Proofs.Compilation.Apart

namespace CompilePlayground

open Posix

/-!
# What is left when a job is done

Unless the system refuses to remove it, no directory is left of a job that is done.
-/

namespace Compilation

/-- A refusal ends a call when it is about to make or to remove its directory. -/
theorem ends_of_fail
    {compilation : Compilation}
    {cause : IoError}
    {left : Machine}
    {stepped : Stepped}
    {outcome : Outcome}
    (failed : compilation.fail cause left = some stepped)
    (done : stepped.compilation.stage = .done outcome) :
    compilation.stage = .makeDirectory ∨ ∃ outcome, compilation.stage = .clear outcome := by
  obtain ⟨fails, _⟩ := fails_of_fail failed
  rw [done] at fails
  cases fails with
  | makeDirectory stage =>
      exact .inl stage
  | clear stage =>
      exact .inr ⟨_, stage⟩

end Compilation

namespace Call

variable {host : Host} {call last : Call} {refused? : Option IoError} {outcome : Outcome}

/-- A call that was refused nothing ends when it has removed its directory. -/
theorem Succeeds.clear_of_done
    (succeeds : Succeeds host call last)
    (done : last.compilation.stage = .done outcome) :
    ∃ outcome, call.compilation.stage = .clear outcome := by
  cases succeeds with
  | clear stage =>
      exact ⟨_, stage⟩
  | makeDirectory | writeSource | openOutput | launch | await | readOutput =>
      cases done

/-- A call ends when it has removed its directory or was refused to make or to remove it. -/
theorem Acts.ends_of_done
    (acts : Acts host call refused? last)
    (done : last.compilation.stage = .done outcome) :
    call.compilation.stage = .makeDirectory ∨
      ∃ outcome, call.compilation.stage = .clear outcome := by
  cases acts with
  | succeeds succeeds =>
      exact .inr (succeeds.clear_of_done done)
  | fails _ failed =>
      exact Compilation.ends_of_fail failed done

end Call

namespace Desk

variable {σ γ : Type} {site : Site} {machine after : Machine} {desk next : Desk σ}

/-- What a step makes of a call is what it makes of the desk. -/
@[simp] theorem compilation_afterStep
    (child : Child σ γ)
    (host : Host)
    (machine : Machine)
    (desk : Desk σ)
    (stepped : Stepped) :
    (desk.afterStep child host machine stepped).compilation = stepped.compilation := by
  unfold afterStep
  split <;> rfl

/-- A call that could not make its directory has left nothing there. -/
theorem Standing.vacant_of_unmade
    {stepped : Stepped}
    {outcome : Outcome}
    (standing : desk.Standing site machine)
    (begun : desk.compilation.stage = .makeDirectory)
    (made : desk.compilation.step site.host machine = some stepped)
    (done : stepped.compilation.stage = .done outcome) :
    stepped.machine.disk.node? (desk.place site.base) = none := by
  have vacant := standing.vacant begun
  unfold Compilation.step at made
  rw [begun] at made
  rcases Machine.createDirectories_cases standing.directory_ne_nil with
    ⟨cause, refused⟩ | ⟨_, _, makes⟩
  · simp only [refused] at made
    obtain ⟨_, unchanged⟩ := Compilation.fails_of_fail made
    rw [unchanged]
    exact vacant
  · simp only [makes machine site.host _ (standing.awaits vacant)] at made
    cases made
    cases done

/-- A call that is refused its directory has left nothing there. -/
theorem Standing.vacant_of_refused
    {stepped : Stepped}
    {cause : IoError}
    {remains? : Option Tree}
    (standing : desk.Standing site machine)
    (begun : desk.compilation.stage = .makeDirectory)
    (failed : desk.compilation.fail cause (desk.strew site.host machine remains?) =
      some stepped) :
    stepped.machine.disk.node? (desk.place site.base) = none := by
  obtain ⟨_, unchanged⟩ := Compilation.fails_of_fail failed
  rw [unchanged, standing.strew_eq begun]
  exact standing.vacant begun

/-- A compiler acts only while it is waited for. -/
theorem isSome_process?_of_act?
    {child : Child σ γ}
    {choice : γ}
    (acts : desk.act? child machine choice = some (after, next)) :
    next.compilation = desk.compilation ∧ desk.process?.isSome = true := by
  unfold act? at acts
  split at acts
  next isProcess _ _ =>
    split at acts
    · cases acts
      exact ⟨rfl, by rw [isProcess]; rfl⟩
    · cases acts
  next =>
    cases acts

/-- A call that removes its directory leaves nothing there. -/
theorem Standing.vacant_of_cleared
    {stepped : Stepped}
    {outcome : Outcome}
    (standing : desk.Standing site machine)
    (stage : desk.compilation.stage = .clear outcome)
    (made : desk.compilation.step site.host machine = some stepped) :
    stepped.machine.disk.node? (desk.place site.base) = none := by
  have named := desk.place_ne_nil site.base
  obtain ⟨_, clears⟩ := (standing.clear stage).steps
  rw [made] at clears
  cases clears
  refine (Disk.node?_eraseTree machine.disk named _).trans (if_pos ?_)
  exact Path.isWithin_self _

/-- Unless the system refuses to remove it, nothing is left of the directory of a job that has come
to its end. -/
theorem Standing.vacant_of_does
    {child : Child σ γ}
    {deed : Deed γ}
    {outcome : Outcome}
    (standing : desk.Standing site machine)
    (does : desk.does? child site.host machine deed = some (after, next))
    (removing : ∀ cause remains?, deed ≠ .spare cause remains?)
    (done : next.compilation.stage = .done outcome) :
    after.disk.node? (desk.place site.base) = none := by
  cases deed with
  | spare cause remains? =>
      exact absurd rfl (removing cause remains?)
  | step =>
      simp only [does?, step?, Option.map_eq_some_iff] at does
      obtain ⟨stepped, made, same⟩ := does
      cases same
      rw [compilation_afterStep] at done
      have acts := Call.acts_of_act? (Option.map_eq_some_iff.2 ⟨stepped, made, rfl⟩ :
        Call.act? site.host ⟨desk.compilation, machine, none⟩ = some _)
      rcases acts.ends_of_done done with begun | ⟨_, clearing⟩
      · exact standing.vacant_of_unmade begun made done
      · exact standing.vacant_of_cleared clearing made
  | refuse cause remains? =>
      simp only [does?] at does
      split at does
      · cases does
      next uncleared =>
        simp only [refuse?, Option.map_eq_some_iff] at does
        obtain ⟨stepped, failed, same⟩ := does
        cases same
        rcases Compilation.ends_of_fail failed done with begun | ⟨_, clearing⟩
        · exact standing.vacant_of_refused begun failed
        · unfold isClearing at uncleared
          rw [clearing] at uncleared
          exact absurd rfl uncleared
  | act choice =>
      obtain ⟨same, waits⟩ := isSome_process?_of_act? does
      rw [same] at done
      unfold process? at waits
      rw [done] at waits
      cases waits

end Desk

end CompilePlayground
