import CompilePlayground.Proofs.Compilation.Matching

namespace CompilePlayground.Desk

open Posix

/-!
# Whatever is done at two desks of one job

Refusals and actions of compilers keep two desks alike as steps of their calls do.
-/

section Pairs

variable {σ γ : Type} {site : Site} {first second : Machine} {one two : Desk σ}

/-- Nothing is left in a directory that was never made. -/
theorem Standing.strew_eq
    (standing : one.Standing site first)
    (stage : one.compilation.stage = .makeDirectory)
    (remains? : Option Tree) :
    one.strew site.host first remains? = first := by
  have nowhere := (standing.awaits (standing.vacant stage)).not_found false
  unfold strew
  cases remains? with
  | none =>
      rfl
  | some tree =>
      simp only
      split
      next place id found =>
        exact absurd found (nowhere place _)
      next =>
        rfl

/-- What a refusal leaves is planted in the directory. -/
theorem Standing.strew_some
    (standing : one.Standing site first)
    (made : one.Made site.base first)
    (tree : Tree) :
    one.strew site.host first (some tree) =
      first.withDisk (first.disk.plant (one.place site.base) tree) := by
  obtain ⟨id, found⟩ := (standing.leads made).find_eq made.usable false
  unfold strew
  simp only [found]

/-- Planting a tree in the directory of a job touches nothing else, and is all that is seen
there. -/
theorem Standing.plant
    (standing : one.Standing site first)
    (made : one.Made site.base first)
    (tree : Tree) :
    Disk.Touches (one.place site.base) first.disk
        (first.disk.plant (one.place site.base) tree) ∧
      (first.disk.plant (one.place site.base) tree).view (one.place site.base) = tree.view := by
  have named := one.place_ne_nil site.base
  obtain ⟨id, directory⟩ := made.directory
  exact ⟨Disk.touches_plant standing.sound directory named tree,
    Disk.view_plant standing.sound directory named tree⟩

/-- A directory stays when a tree is planted in it. -/
theorem Made.of_plant
    {base : Path}
    {disk : Disk}
    {tree : Tree}
    (made : one.Made base first)
    (view : disk.view (one.place base) = tree.view) :
    one.Made base (first.withDisk disk) where
  directory := by
    have here := congrFun view []
    rw [Disk.view, List.append_nil] at here
    exact Disk.item?_eq_directory.1 here
  whole := made.whole
  usable := made.usable

/-- Alike desks begin alike. -/
theorem Alike.begun_iff
    {base : Path}
    (alike : Alike base first one second two) :
    two.compilation.stage = .makeDirectory ↔ one.compilation.stage = .makeDirectory := by
  have stages := alike.stage
  generalize one.compilation.stage = here at stages
  generalize two.compilation.stage = there at stages
  cases stages <;> simp

/-- Alike desks have come to the same. -/
theorem Alike.done_iff
    {base : Path}
    {outcome : Outcome}
    (alike : Alike base first one second two) :
    two.compilation.stage = .done outcome ↔ one.compilation.stage = .done outcome := by
  have stages := alike.stage
  generalize one.compilation.stage = here at stages
  generalize two.compilation.stage = there at stages
  cases stages <;> simp

/-- Alike desks remove their directories at the same time. -/
theorem Alike.isClearing_eq
    {base : Path}
    (alike : Alike base first one second two) :
    two.isClearing = one.isClearing := by
  have stages := alike.stage
  unfold isClearing
  generalize one.compilation.stage = here at stages
  generalize two.compilation.stage = there at stages
  cases stages <;> rfl

/-- A call that is done is not refused anything. -/
theorem refuse?_of_done
    {outcome : Outcome}
    (stage : one.compilation.stage = .done outcome)
    (host : Host)
    (cause : IoError)
    (remains? : Option Tree) :
    one.refuse? host first cause remains? = none := by
  unfold refuse? Compilation.fail
  rw [stage]
  rfl

/-- Two calls are refused alike. -/
theorem Alike.matches_refuse
    (alike : Alike site.base first one second two)
    (standOne : one.Standing site first)
    (standTwo : two.Standing site second)
    (cause : IoError)
    (remains? : Option Tree) :
    Matches site.base first one second two (one.refuse? site.host first cause remains?)
      (two.refuse? site.host second cause remains?) := by
  by_cases finished : ∃ outcome, one.compilation.stage = .done outcome
  · obtain ⟨outcome, stage⟩ := finished
    rw [refuse?_of_done stage, refuse?_of_done (alike.done_iff.2 stage)]
    exact .none
  · have unfinished (outcome : Outcome) : one.compilation.stage ≠ .done outcome :=
      fun stage => finished ⟨outcome, stage⟩
    unfold refuse?
    by_cases begun : one.compilation.stage = .makeDirectory
    · rw [standOne.strew_eq begun, standTwo.strew_eq (alike.begun_iff.2 begun)]
      exact alike.matches_fail standOne.works_refl standTwo.works_refl alike.view standOne.made
        standTwo.made cause
    · have madeOne := standOne.made begun unfinished
      have madeTwo := standTwo.made (mt alike.begun_iff.1 begun)
        (fun outcome stage => unfinished outcome (alike.done_iff.1 stage))
      cases remains? with
      | none =>
          exact alike.matches_fail standOne.works_refl standTwo.works_refl alike.view
            standOne.made standTwo.made cause
      | some tree =>
          obtain ⟨touchesOne, viewOne⟩ := standOne.plant madeOne tree
          obtain ⟨touchesTwo, viewTwo⟩ := standTwo.plant madeTwo tree
          rw [standOne.strew_some madeOne, standTwo.strew_some madeTwo]
          refine alike.matches_fail (Machine.works_withDisk standOne.bred touchesOne _)
            (Machine.works_withDisk standTwo.bred touchesTwo _) ?_
            (fun _ _ => madeOne.of_plant viewOne) (fun _ _ => madeTwo.of_plant viewTwo) cause
          have viewThere := viewTwo
          rw [alike.place_eq] at viewThere ⊢
          exact viewOne.trans viewThere.symm

/-- A compiler that has not ended acts in its directory. -/
theorem Standing.act
    {process deadline : Nat}
    {state : σ}
    (standing : one.Standing site first)
    (stage : one.compilation.stage = .await process deadline)
    (knows : one.child? = some state)
    (running : first.ending? process = none)
    (child : Child σ γ)
    (choice : γ)
    {result : σ × Tree × Option ExitStatus}
    (acts : child.act state first.clock (first.disk.view (one.place site.base)) choice = result) :
    ∃ after, one.act? child first choice = some (after, { one with child? := some result.1 }) ∧
      After site.base first one after { one with child? := some result.1 } ∧
        after.disk.view (one.place site.base) = result.2.1.view ∧
          after.ending? process = result.2.2 := by
  obtain ⟨made, given, known, isHome, _⟩ := standing.awaiting stage
  have isOne : one.process? = some process := by
    simp only [process?, stage]
  have polls := standing.poll_eq stage
  rw [running] at polls
  obtain ⟨touches, view⟩ := standing.plant made result.2.1
  have planted := Machine.works_withDisk standing.bred touches (some process)
  obtain ⟨next, tree, status?⟩ := result
  cases status? with
  | none =>
      refine ⟨first.withDisk (first.disk.plant (one.place site.base) tree), ?_, ⟨?_, ?_, rfl, rfl, ?_⟩,
        view, running⟩
      · unfold act?
        simp only [isOne, isHome, knows, polls, acts]
      · rw [isOne]
        exact planted
      · unfold Stands
        simp only [stage]
        exact ⟨made.of_plant view, given, known, isHome, rfl⟩
      · exact fun id same => .inl same
  | some status =>
      obtain ⟨ends, found⟩ := Machine.works_endProcess planted.bred planted.disk.sound
        (one.place site.base) process status
      obtain ⟨own, isThere⟩ := Option.isSome_iff_exists.1 known
      have same : (first.withDisk
          (first.disk.plant (one.place site.base) tree)).process? process = some own :=
        isThere
      rw [same] at found
      refine ⟨(first.withDisk (first.disk.plant (one.place site.base) tree)).endProcess process
        status, ?_, ⟨?_, ?_, rfl, rfl, ?_⟩, view, ?_⟩
      · unfold act?
        simp only [isOne, isHome, knows, polls, acts]
      · rw [isOne]
        exact planted.trans ends
      · unfold Stands
        simp only [stage]
        refine ⟨made.of_plant view, given, ?_, isHome, rfl⟩
        rw [found]
        rfl
      · exact fun id same => .inl same
      · unfold Machine.ending?
        rw [found]
        rfl

theorem act?_of_idle
    (idle : one.process? = none)
    (child : Child σ γ)
    (choice : γ) :
    one.act? child first choice = none := by
  unfold act?
  rw [idle]

/-- A compiler that has ended does not act. -/
theorem Standing.act?_of_ended
    {process deadline : Nat}
    {status : ExitStatus}
    (standing : one.Standing site first)
    (stage : one.compilation.stage = .await process deadline)
    (ended : first.ending? process = some status)
    (child : Child σ γ)
    (choice : γ) :
    one.act? child first choice = none := by
  have polls := standing.poll_eq stage
  rw [ended] at polls
  unfold act?
  split
  next number home state isOne _ _ =>
    unfold process? at isOne
    rw [stage] at isOne
    cases isOne
    rw [polls]
  next =>
    rfl

/-- Two compilers act alike. -/
theorem Alike.matches_act
    (alike : Alike site.base first one second two)
    (standOne : one.Standing site first)
    (standTwo : two.Standing site second)
    (child : Child σ γ)
    (choice : γ) :
    Matches site.base first one second two (one.act? child first choice)
      (two.act? child second choice) := by
  have stages := alike.stage
  generalize stageOne : one.compilation.stage = here at stages
  generalize stageTwo : two.compilation.stage = there at stages
  cases stages with
  | makeDirectory | writeSource | openOutput | launch | readOutput | clear | done =>
      rw [act?_of_idle (by simp only [process?, stageOne]),
        act?_of_idle (by simp only [process?, stageTwo])]
      exact .none
  | @await processOne processTwo deadline same =>
      cases ended : first.ending? processOne with
      | some status =>
          rw [standOne.act?_of_ended stageOne ended, standTwo.act?_of_ended stageTwo
            (same.symm.trans ended)]
          exact .none
      | none =>
          obtain ⟨_, _, _, _, knows⟩ := standOne.awaiting stageOne
          obtain ⟨state, knowsOne⟩ := Option.isSome_iff_exists.1 knows
          have knowsTwo := alike.child?.symm.trans knowsOne
          obtain ⟨leftOne, actsOne, afterOne, viewOne, endsOne⟩ :=
            standOne.act stageOne knowsOne ended child choice rfl
          obtain ⟨leftTwo, actsTwo, afterTwo, viewTwo, endsTwo⟩ :=
            standTwo.act stageTwo knowsTwo (same.symm.trans ended) child choice rfl
          rw [alike.place_eq, ← alike.view, ← alike.clock] at actsTwo afterTwo viewTwo endsTwo
          rw [actsOne, actsTwo]
          refine .some ⟨alike.settings, alike.job, ?_, ?_, rfl, ?_⟩ afterOne afterTwo
          · simp only [stageOne, stageTwo]
            exact .await deadline (endsOne.trans endsTwo.symm)
          · exact afterOne.works.clock.trans (alike.clock.trans afterTwo.works.clock.symm)
          · exact viewOne.trans viewTwo.symm

/-- Two desks of one job do the same. -/
theorem Alike.matches_does
    (alike : Alike site.base first one second two)
    (standOne : one.Standing site first)
    (standTwo : two.Standing site second)
    (discreet : site.Discreet)
    (unspoken : ∀ verdict, one.compilation.stage = .readOutput verdict → one.Discreet site first)
    (child : Child σ γ)
    (deed : Deed γ) :
    Matches site.base first one second two (one.does? child site.host first deed)
      (two.does? child site.host second deed) := by
  cases deed with
  | step =>
      exact alike.matches_step standOne standTwo discreet unspoken child
  | act choice =>
      exact alike.matches_act standOne standTwo child choice
  | refuse cause remains? =>
      unfold does?
      simp only [alike.isClearing_eq]
      split
      · exact .none
      · exact alike.matches_refuse standOne standTwo cause remains?
  | spare cause remains? =>
      unfold does?
      simp only [alike.isClearing_eq]
      split
      · exact alike.matches_refuse standOne standTwo cause remains?
      · exact .none

/-- A desk is alike itself. -/
theorem Alike.refl (base : Path) (machine : Machine) (desk : Desk σ) :
    Alike base machine desk machine desk := by
  refine ⟨rfl, rfl, ?_, rfl, rfl, rfl⟩
  cases desk.compilation.stage with
  | makeDirectory => exact .makeDirectory
  | writeSource => exact .writeSource
  | openOutput => exact .openOutput
  | launch output => exact .launch output output
  | await process deadline => exact .await deadline rfl
  | readOutput verdict => exact .readOutput verdict
  | clear outcome => exact .clear outcome
  | done outcome => exact .done outcome

/-- What is done at a desk touches nothing else and leaves the desk in order. -/
theorem Standing.after_does
    {after : Machine}
    {next : Desk σ}
    {child : Child σ γ}
    {deed : Deed γ}
    (standing : one.Standing site first)
    (discreet : site.Discreet)
    (unspoken : ∀ verdict, one.compilation.stage = .readOutput verdict → one.Discreet site first)
    (does : one.does? child site.host first deed = some (after, next)) :
    After site.base first one after next := by
  have matching := (Alike.refl site.base first one).matches_does standing standing discreet unspoken
    child deed
  rw [does] at matching
  cases matching with
  | some _ afterOne _ =>
      exact afterOne

end Pairs

end CompilePlayground.Desk
