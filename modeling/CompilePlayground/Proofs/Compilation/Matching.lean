import CompilePlayground.Proofs.Compilation.Starting

namespace CompilePlayground.Desk

open Posix

/-!
# Two desks of one job do the same

Whatever is done at two desks that are alike leads to desks that are alike, and touches nothing
but the directory and the process of the job.
-/

section Pairs

variable {σ γ : Type} {site : Site} {first second leftOne leftTwo : Machine} {one two : Desk σ}

theorem Alike.place_eq
    {base : Path}
    (alike : Alike base first one second two) :
    two.place base = one.place base := by
  unfold place
  rw [alike.job]

theorem Alike.directory_eq
    {base : Path}
    (alike : Alike base first one second two) :
    two.compilation.directory = one.compilation.directory := by
  unfold Compilation.directory
  rw [alike.settings, alike.job]

/-- Two desks go on to alike stages, with no process to wait for. -/
theorem Alike.matches_at
    {base : Path}
    {here there : Stage}
    (alike : Alike base first one second two)
    (worksOne : Machine.Works (one.place base) one.process? first leftOne)
    (worksTwo : Machine.Works (two.place base) two.process? second leftTwo)
    (view : leftOne.disk.view (one.place base) = leftTwo.disk.view (one.place base))
    (stages : ∀ ended, AlikeStage ended here there)
    (standsOne : ({ one with compilation := one.compilation.atStage here }).Stands base leftOne)
    (standsTwo : ({ two with compilation := two.compilation.atStage there }).Stands base leftTwo)
    (idleOne : ({ one with compilation := one.compilation.atStage here }).process? = none)
    (idleTwo : ({ two with compilation := two.compilation.atStage there }).process? = none) :
    Matches base first one second two
      (some (leftOne, { one with compilation := one.compilation.atStage here }))
      (some (leftTwo, { two with compilation := two.compilation.atStage there })) := by
  refine .some ?_ ?_ ?_
  · exact
      { settings := alike.settings
        job := alike.job
        stage := stages _
        clock := worksOne.clock.trans (alike.clock.trans worksTwo.clock.symm)
        child? := alike.child?
        view := view }
  · refine ⟨worksOne, standsOne, rfl, rfl, ?_⟩
    rw [idleOne]
    nofun
  · refine ⟨worksTwo, standsTwo, rfl, rfl, ?_⟩
    rw [idleTwo]
    nofun

/-- Two desks go on alike after a refusal, when what it has left is alike. -/
theorem Alike.matches_fail
    {base : Path}
    (alike : Alike base first one second two)
    (worksOne : Machine.Works (one.place base) one.process? first leftOne)
    (worksTwo : Machine.Works (two.place base) two.process? second leftTwo)
    (view : leftOne.disk.view (one.place base) = leftTwo.disk.view (one.place base))
    (madeOne : one.compilation.stage ≠ .makeDirectory →
      (∀ outcome, one.compilation.stage ≠ .done outcome) → one.Made base leftOne)
    (madeTwo : two.compilation.stage ≠ .makeDirectory →
      (∀ outcome, two.compilation.stage ≠ .done outcome) → two.Made base leftTwo)
    (cause : IoError) :
    Matches base first one second two
      ((one.compilation.fail cause leftOne).map fun stepped =>
        (stepped.machine, { one with compilation := stepped.compilation }))
      ((two.compilation.fail cause leftTwo).map fun stepped =>
        (stepped.machine, { two with compilation := stepped.compilation })) := by
  have stages := alike.stage
  unfold Compilation.fail
  generalize stageOne : one.compilation.stage = here at stages madeOne
  generalize stageTwo : two.compilation.stage = there at stages madeTwo
  cases stages with
  | done outcome =>
      exact .none
  | makeDirectory =>
      exact alike.matches_at worksOne worksTwo view (fun _ => .done _) trivial trivial rfl rfl
  | clear outcome =>
      exact alike.matches_at worksOne worksTwo view (fun _ => .done _) trivial trivial rfl rfl
  | writeSource | openOutput | launch | readOutput =>
      exact alike.matches_at worksOne worksTwo view (fun _ => .clear _)
        (madeOne nofun nofun) (madeTwo nofun nofun) rfl rfl
  | @await process other deadline same =>
      have isOne : one.process? = some process := by
        simp only [process?, stageOne]
      have isTwo : two.process? = some other := by
        simp only [process?, stageTwo]
      rw [isOne] at worksOne
      rw [isTwo] at worksTwo
      refine alike.matches_at ?_ ?_ view (fun _ => .clear _) (madeOne nofun nofun)
        (madeTwo nofun nofun) rfl rfl
      · rw [isOne]
        exact worksOne.trans (Machine.works_killProcess worksOne.bred worksOne.disk.sound _ process)
      · rw [isTwo]
        exact worksTwo.trans (Machine.works_killProcess worksTwo.bred worksTwo.disk.sound _ other)

/-- A desk whose call goes on after a refusal. -/
theorem step?_of_fail
    {child : Child σ γ}
    {host : Host}
    {cause : IoError}
    (failing : one.compilation.step host first = one.compilation.fail cause leftOne) :
    one.step? child host first =
      (one.compilation.fail cause leftOne).map fun stepped =>
        (stepped.machine, { one with compilation := stepped.compilation }) := by
  unfold step?
  rw [failing]
  cases failed : one.compilation.fail cause leftOne with
  | none =>
      rfl
  | some stepped =>
      obtain ⟨fails, _⟩ := Compilation.fails_of_fail failed
      simp only [Option.map_some, Option.some.injEq, Prod.mk.injEq, true_and]
      unfold afterStep
      split
      next stage =>
        rw [stage] at fails
        cases fails
      next =>
        rfl

/-- A desk whose call gets what it asks for, and does not start its compiler. -/
theorem step?_of_step
    {child : Child σ γ}
    {host : Host}
    {stage : Stage}
    {events : List LogEvent}
    (steps : one.compilation.step host first =
      some ⟨one.compilation.atStage stage, leftOne, events⟩)
    (idle : ∀ process deadline, stage ≠ .await process deadline) :
    one.step? child host first =
      some (leftOne, { one with compilation := one.compilation.atStage stage }) := by
  unfold step?
  rw [steps]
  simp only [Option.map_some, Option.some.injEq, Prod.mk.injEq, true_and]
  unfold afterStep
  split
  next awaits =>
    exact absurd awaits (idle _ _)
  next =>
    rfl

theorem Standing.works_refl
    (standing : one.Standing site first) :
    Machine.Works (one.place site.base) one.process? first first :=
  .refl standing.bred standing.sound _ _

/-- The directory of a call is there from the time it is made until it is removed. -/
theorem Standing.made
    (standing : one.Standing site first)
    (begun : one.compilation.stage ≠ .makeDirectory)
    (unfinished : ∀ outcome, one.compilation.stage ≠ .done outcome) :
    one.Made site.base first := by
  have stands := standing.stands
  unfold Stands at stands
  cases stage : one.compilation.stage with
  | makeDirectory =>
      exact absurd stage begun
  | done outcome =>
      exact absurd stage (unfinished outcome)
  | readOutput | clear =>
      rw [stage] at stands
      exact stands
  | writeSource | openOutput | launch | await =>
      rw [stage] at stands
      exact stands.1

/-- Two calls that are refused the same go on alike. -/
theorem Alike.matches_of_fails
    (alike : Alike site.base first one second two)
    (standOne : one.Standing site first)
    (standTwo : two.Standing site second)
    (child : Child σ γ)
    (cause : IoError)
    (failsOne : one.compilation.step site.host first = one.compilation.fail cause first)
    (failsTwo : two.compilation.step site.host second = two.compilation.fail cause second) :
    Matches site.base first one second two (one.step? child site.host first)
      (two.step? child site.host second) := by
  rw [step?_of_fail failsOne, step?_of_fail failsTwo]
  exact alike.matches_fail standOne.works_refl standTwo.works_refl alike.view standOne.made
    standTwo.made cause

/-- A call that gets what it asks for, and goes on to a stage at which it waits for nothing. -/
structure Goes
    (site : Site)
    (machine : Machine)
    (desk : Desk σ)
    (stage : Stage)
    (left : Machine) :
    Prop where
  steps : ∃ events, desk.compilation.step site.host machine =
    some ⟨desk.compilation.atStage stage, left, events⟩
  works : Machine.Works (desk.place site.base) desk.process? machine left
  stands : ({ desk with compilation := desk.compilation.atStage stage }).Stands site.base left

/-- Two calls that get what they ask for go on alike when they see the same afterwards. -/
theorem Alike.matches_of_goes
    {here there : Stage}
    (alike : Alike site.base first one second two)
    (child : Child σ γ)
    (goesOne : Goes site first one here leftOne)
    (goesTwo : Goes site second two there leftTwo)
    (view : leftOne.disk.view (one.place site.base) = leftTwo.disk.view (one.place site.base))
    (stages : ∀ ended, AlikeStage ended here there)
    (idleOne : ∀ process deadline, here ≠ .await process deadline)
    (idleTwo : ∀ process deadline, there ≠ .await process deadline) :
    Matches site.base first one second two (one.step? child site.host first)
      (two.step? child site.host second) := by
  obtain ⟨_, stepsOne⟩ := goesOne.steps
  obtain ⟨_, stepsTwo⟩ := goesTwo.steps
  rw [step?_of_step stepsOne idleOne, step?_of_step stepsTwo idleTwo]
  refine alike.matches_at goesOne.works goesTwo.works view stages goesOne.stands goesTwo.stands
    ?_ ?_
  · cases here with
    | await process deadline =>
        exact absurd rfl (idleOne process deadline)
    | makeDirectory | writeSource | openOutput | launch | readOutput | clear | done =>
        rfl
  · cases there with
    | await process deadline =>
        exact absurd rfl (idleTwo process deadline)
    | makeDirectory | writeSource | openOutput | launch | readOutput | clear | done =>
        rfl

/-- What is seen of a directory that has just been made. -/
theorem Standing.view_addDirectory
    (standing : one.Standing site first)
    (vacant : first.disk.node? (one.place site.base) = none) :
    (first.disk.addDirectory (one.place site.base)).view (one.place site.base) =
      Tree.bare.view := by
  have named := one.place_ne_nil site.base
  funext rest
  unfold Disk.view Tree.view
  split
  next here =>
    rw [here, List.append_nil, Disk.item?_eq_directory]
    exact ⟨first.disk.fresh, by rw [Disk.node?_addDirectory _ named, if_pos rfl]⟩
  next more =>
    rw [show Tree.bare.entries.lookup rest = none from rfl, Disk.item?_eq_none,
      Disk.node?_addDirectory _ named, if_neg (by simpa using more)]
    exact standing.sound.vacant_within vacant rest

/-- A call whose directory can be made makes it. -/
theorem Standing.makeDirectory
    (standing : one.Standing site first)
    (stage : one.compilation.stage = .makeDirectory)
    (whole : one.compilation.directory.contains 0 = false)
    (usable : Path.IsUsable one.compilation.directory)
    (makes : first.createDirectories site.host one.compilation.directory =
      .ok (first.withDisk (first.disk.addDirectory (one.place site.base)))) :
    Goes site first one .writeSource
      (first.withDisk (first.disk.addDirectory (one.place site.base))) where
  steps := by
    unfold Compilation.step
    rw [stage]
    simp only [makes]
    exact ⟨_, rfl⟩
  works := by
    obtain ⟨id, directory⟩ := standing.base_directory
    exact Machine.works_withDisk standing.bred (.addDirectory standing.sound directory) _
  stands := by
    have view := standing.view_addDirectory (standing.vacant stage)
    refine ⟨⟨?_, whole, usable⟩, fun step => ?_⟩
    · have here := congrFun view []
      rw [Disk.view, List.append_nil] at here
      exact Disk.item?_eq_directory.1 here
    · rw [← Disk.item?_eq_none]
      exact congrFun view [step]

/-- Two calls make their directories alike. -/
theorem Alike.matches_makeDirectory
    (alike : Alike site.base first one second two)
    (standOne : one.Standing site first)
    (standTwo : two.Standing site second)
    (stageOne : one.compilation.stage = .makeDirectory)
    (stageTwo : two.compilation.stage = .makeDirectory)
    (child : Child σ γ) :
    Matches site.base first one second two (one.step? child site.host first)
      (two.step? child site.host second) := by
  have vacantOne := standOne.vacant stageOne
  have vacantTwo := standTwo.vacant stageTwo
  have awaitsTwo := standTwo.awaits vacantTwo
  rw [alike.directory_eq] at awaitsTwo
  rcases Machine.createDirectories_cases standOne.directory_ne_nil with
    ⟨cause, refused⟩ | ⟨whole, usable, makes⟩
  · refine alike.matches_of_fails standOne standTwo child cause ?_ ?_
    · unfold Compilation.step
      rw [stageOne]
      simp only [refused]
    · unfold Compilation.step
      rw [stageTwo, alike.directory_eq]
      simp only [refused]
  · rw [standOne.trimmed_directory] at usable
    refine alike.matches_of_goes child
      (standOne.makeDirectory stageOne whole usable
        (makes first site.host _ (standOne.awaits vacantOne)))
      (standTwo.makeDirectory stageTwo (by rw [alike.directory_eq]; exact whole)
        (by rw [alike.directory_eq]; exact usable)
        (by rw [alike.directory_eq]; exact makes second site.host _ awaitsTwo))
      ?_ (fun _ => .writeSource) nofun nofun
    have viewTwo := standTwo.view_addDirectory vacantTwo
    rw [alike.place_eq] at viewTwo ⊢
    exact (standOne.view_addDirectory vacantOne).trans viewTwo.symm

/-- A directory stays when a file is made in it. -/
theorem Made.of_gains
    {base : Path}
    {disk : Disk}
    {leaf : Bytes}
    {file : File}
    (made : one.Made base first)
    (gains : Disk.Gains (one.place base ++ [leaf]) file first.disk disk) :
    one.Made base (first.withDisk disk) where
  directory := by
    obtain ⟨id, directory⟩ := made.directory
    refine ⟨id, ?_⟩
    rw [← directory]
    exact (gains.nodes _).trans (if_neg (by simp))
  whole := made.whole
  usable := made.usable

/-- No compiler has been in a directory that is empty. -/
theorem Standing.tame_of_bare
    (standing : one.Standing site first)
    (made : one.Made site.base first)
    (vacant : ∀ step, first.disk.node? (one.place site.base ++ [step]) = none) :
    one.Tame site.base first := by
  have bare (rest : Path) (item : Item)
      (seen : first.disk.view (one.place site.base) rest = some item) :
      item = .directory := by
    cases rest with
    | nil =>
        have here := Disk.item?_eq_directory.2 made.directory
        rw [Disk.view, List.append_nil, here] at seen
        exact (Option.some.inj seen).symm
    | cons step rest =>
        have nothing := standing.sound.vacant_within (vacant step) rest
        rw [List.append_assoc, ← Disk.item?_eq_none] at nothing
        rw [Disk.view, ← List.singleton_append, nothing] at seen
        cases seen
  constructor
  · intro rest target seen
    cases bare rest _ seen
  · intro rest file seen
    cases bare rest _ seen

/-- A call whose source can be written writes it. -/
theorem Standing.writeSource
    {disk : Disk}
    {file : File}
    (standing : one.Standing site first)
    (stage : one.compilation.stage = .writeSource)
    (fills : first.fillFile site.host (one.compilation.fileName Compilation.sourceName)
      one.compilation.job.source = .ok (first.withDisk disk))
    (gains : Disk.Gains (one.place site.base ++ [Text.Utf8.encode Compilation.sourceName]) file
      first.disk disk)
    (standard : file.mode = Disk.standardMode) :
    Goes site first one .openOutput (first.withDisk disk) := by
  obtain ⟨made, vacant⟩ := standing.bare stage
  obtain ⟨id, directory⟩ := made.directory
  have tame : View.IsTame (disk.view (one.place site.base)) := by
    rw [gains.view_eq standing.sound]
    exact (standing.tame_of_bare made vacant).update (File.isExecutable_of_standardMode standard)
  have free : disk.node?
      (one.place site.base ++ [Text.Utf8.encode Compilation.outputName]) = none := by
    rw [gains.nodes, if_neg, vacant]
    rw [List.append_cancel_left_eq]
    decide
  refine ⟨?_, ?_, made.of_gains gains, tame, free⟩
  · unfold Compilation.step
    rw [stage]
    simp only [fills]
    exact ⟨_, rfl⟩
  · exact Machine.works_withDisk standing.bred
      (gains.touches standing.sound directory (vacant _)) _

/-- Two calls write their sources alike. -/
theorem Alike.matches_writeSource
    (alike : Alike site.base first one second two)
    (standOne : one.Standing site first)
    (standTwo : two.Standing site second)
    (stageOne : one.compilation.stage = .writeSource)
    (stageTwo : two.compilation.stage = .writeSource)
    (child : Child σ γ) :
    Matches site.base first one second two (one.step? child site.host first)
      (two.step? child site.host second) := by
  obtain ⟨madeOne, vacantOne⟩ := standOne.bare stageOne
  obtain ⟨madeTwo, vacantTwo⟩ := standTwo.bare stageTwo
  have leadsTwo := standTwo.leads madeTwo
  rw [alike.directory_eq] at leadsTwo
  rcases Machine.fillFile_cases Compilation.isPlain_sourceName (by decide)
    one.compilation.directory with ⟨cause, refused⟩ | fills
  · refine alike.matches_of_fails standOne standTwo child cause ?_ ?_
    · unfold Compilation.step
      rw [stageOne]
      simp only [Compilation.fileName, refused]
    · unfold Compilation.step
      rw [stageTwo]
      simp only [Compilation.fileName, alike.directory_eq, refused]
  · obtain ⟨diskOne, filledOne, gainsOne⟩ := fills first site.host one.compilation.job.source
      (one.place site.base) (standOne.leads madeOne) (vacantOne _)
    obtain ⟨diskTwo, filledTwo, gainsTwo⟩ := fills second site.host two.compilation.job.source
      (two.place site.base) leadsTwo (vacantTwo _)
    refine alike.matches_of_goes child (standOne.writeSource stageOne filledOne gainsOne rfl)
      (standTwo.writeSource stageTwo ?_ gainsTwo rfl) ?_ (fun _ => .openOutput) nofun nofun
    · unfold Compilation.fileName
      rw [alike.directory_eq]
      exact filledTwo
    · have viewTwo := gainsTwo.view_eq standTwo.sound
      rw [alike.place_eq] at viewTwo
      refine (gainsOne.view_eq standOne.sound).trans (Eq.trans ?_ viewTwo.symm)
      rw [alike.view, alike.job]
      unfold Machine.seconds
      rw [alike.clock]

/-- A call whose output can be opened opens it. -/
theorem Standing.openOutput
    {disk : Disk}
    {file : File}
    (standing : one.Standing site first)
    (stage : one.compilation.stage = .openOutput)
    (opens : first.openEmptied site.host (one.compilation.fileName Compilation.outputName) =
      .ok ((first.withDisk disk).addOpenFile (.file first.disk.fresh) .truncate))
    (gains : Disk.Gains (one.place site.base ++ [Text.Utf8.encode Compilation.outputName]) file
      first.disk disk)
    (standard : file.mode = Disk.standardMode) :
    Goes site first one (.launch first.fresh)
      ((first.withDisk disk).addOpenFile (.file first.disk.fresh) .truncate).2 := by
  obtain ⟨made, tame, vacant⟩ := standing.unopened stage
  obtain ⟨id, directory⟩ := made.directory
  have still : View.IsTame (disk.view (one.place site.base)) := by
    rw [gains.view_eq standing.sound]
    exact tame.update (File.isExecutable_of_standardMode standard)
  refine ⟨?_, ?_, made.of_gains gains, still⟩
  · unfold Compilation.step
    rw [stage]
    simp only [opens]
    exact ⟨_, rfl⟩
  · exact Machine.works_addOpenFile standing.bred
      (gains.touches standing.sound directory vacant) _ _ _

/-- Two calls open their outputs alike. -/
theorem Alike.matches_openOutput
    (alike : Alike site.base first one second two)
    (standOne : one.Standing site first)
    (standTwo : two.Standing site second)
    (stageOne : one.compilation.stage = .openOutput)
    (stageTwo : two.compilation.stage = .openOutput)
    (child : Child σ γ) :
    Matches site.base first one second two (one.step? child site.host first)
      (two.step? child site.host second) := by
  obtain ⟨madeOne, _, vacantOne⟩ := standOne.unopened stageOne
  obtain ⟨madeTwo, _, vacantTwo⟩ := standTwo.unopened stageTwo
  have leadsTwo := standTwo.leads madeTwo
  rw [alike.directory_eq] at leadsTwo
  rcases Machine.openEmptied_cases Compilation.isPlain_outputName (by decide)
    one.compilation.directory with ⟨cause, refused⟩ | opens
  · refine alike.matches_of_fails standOne standTwo child cause ?_ ?_
    · unfold Compilation.step
      rw [stageOne]
      simp only [Compilation.fileName, refused]
    · unfold Compilation.step
      rw [stageTwo]
      simp only [Compilation.fileName, alike.directory_eq, refused]
  · obtain ⟨diskOne, openedOne, gainsOne⟩ := opens first site.host (one.place site.base)
      (standOne.leads madeOne) vacantOne
    obtain ⟨diskTwo, openedTwo, gainsTwo⟩ := opens second site.host (two.place site.base)
      leadsTwo vacantTwo
    refine alike.matches_of_goes child (standOne.openOutput stageOne openedOne gainsOne rfl)
      (standTwo.openOutput stageTwo ?_ gainsTwo rfl) ?_ (fun _ => .launch _ _) nofun nofun
    · unfold Compilation.fileName
      rw [alike.directory_eq]
      exact openedTwo
    · have viewTwo := gainsTwo.view_eq standTwo.sound
      rw [alike.place_eq] at viewTwo
      refine (gainsOne.view_eq standOne.sound).trans (Eq.trans ?_ viewTwo.symm)
      rw [alike.view]
      unfold Machine.seconds
      rw [alike.clock]

/-- Two calls read their outputs alike. -/
theorem Alike.matches_readOutput
    {verdict : Verdict}
    (alike : Alike site.base first one second two)
    (standOne : one.Standing site first)
    (standTwo : two.Standing site second)
    (discreet : site.Discreet)
    (unspoken : one.Discreet site first)
    (stageOne : one.compilation.stage = .readOutput verdict)
    (stageTwo : two.compilation.stage = .readOutput verdict)
    (child : Child σ γ) :
    Matches site.base first one second two (one.step? child site.host first)
      (two.step? child site.host second) := by
  have madeOne := standOne.made (by simp [stageOne]) (by simp [stageOne])
  have madeTwo := standTwo.made (by simp [stageTwo]) (by simp [stageTwo])
  have same := alike.fileBytes_output_eq standOne standTwo discreet unspoken madeOne
  cases reads : first.fileBytes site.host (one.compilation.fileName Compilation.outputName) with
  | error cause =>
      refine alike.matches_of_fails standOne standTwo child cause ?_ ?_
      · unfold Compilation.step
        rw [stageOne]
        simp only [reads]
      · unfold Compilation.step
        rw [stageTwo]
        simp only [same, reads]
  | ok bytes =>
      have goesOne : Goes site first one (.clear (.ok ⟨verdict,
          Compilation.outputText one.compilation.settings.timeout verdict bytes⟩)) first := by
        refine ⟨?_, standOne.works_refl, madeOne⟩
        unfold Compilation.step
        rw [stageOne]
        simp only [reads]
        exact ⟨_, rfl⟩
      have goesTwo : Goes site second two (.clear (.ok ⟨verdict,
          Compilation.outputText one.compilation.settings.timeout verdict bytes⟩)) second := by
        refine ⟨?_, standTwo.works_refl, madeTwo⟩
        unfold Compilation.step
        rw [stageTwo]
        simp only [same, reads, alike.settings]
        exact ⟨_, rfl⟩
      exact alike.matches_of_goes child goesOne goesTwo alike.view (fun _ => .clear _) nofun nofun

/-- A call removes its directory. -/
theorem Standing.clear
    {outcome : Outcome}
    (standing : one.Standing site first)
    (stage : one.compilation.stage = .clear outcome) :
    Goes site first one (.done outcome)
      (first.withDisk (first.disk.eraseTree (one.place site.base))) := by
  have made := standing.made (by simp [stage]) (by simp [stage])
  have named := one.place_ne_nil site.base
  refine ⟨?_, ?_, trivial⟩
  · unfold Compilation.step
    rw [stage]
    simp only [Machine.removeTree_eq made.whole made.usable (standing.leads made) named]
    exact ⟨_, rfl⟩
  · exact Machine.works_withDisk standing.bred (.eraseTree standing.sound named) _

/-- Two calls remove their directories alike. -/
theorem Alike.matches_clear
    {outcome : Outcome}
    (alike : Alike site.base first one second two)
    (standOne : one.Standing site first)
    (standTwo : two.Standing site second)
    (stageOne : one.compilation.stage = .clear outcome)
    (stageTwo : two.compilation.stage = .clear outcome)
    (child : Child σ γ) :
    Matches site.base first one second two (one.step? child site.host first)
      (two.step? child site.host second) := by
  have named := one.place_ne_nil site.base
  refine alike.matches_of_goes child (standOne.clear stageOne) (standTwo.clear stageTwo) ?_
    (fun _ => .done _) nofun nofun
  rw [alike.place_eq]
  funext rest
  have gone (disk : Disk) : (disk.eraseTree (one.place site.base)).view (one.place site.base)
      rest = none := by
    rw [Disk.view, Disk.item?_eq_none, Disk.node?_eraseTree _ named, if_pos]
    exact Path.isWithin_append _ rest
  exact (gone first.disk).trans (gone second.disk).symm

/-- A desk at which the compiler was started as a process. -/
def launched
    (child : Child σ γ)
    (base : Path)
    (machine : Machine)
    (desk : Desk σ)
    (output process : Nat) :
    Desk σ :=
  ⟨desk.compilation.atStage
    (.await process (machine.clock + desk.compilation.settings.timeout.nanoseconds)),
    some (desk.place base), some (child.start (desk.compilation.command output).arguments)⟩

/-- A call whose compiler can be started starts it in its directory. -/
theorem Standing.launch
    {output process : Nat}
    (standing : one.Standing site first)
    (stage : one.compilation.stage = .launch output)
    (spawns : first.spawn site.host (one.compilation.command output) = .ok (process, leftOne))
    (child : Child σ γ) :
    one.step? child site.host first =
        some (leftOne, launched child site.base first one output process) ∧
      After site.base first one leftOne (launched child site.base first one output process) ∧
        leftOne.ending? process = none := by
  obtain ⟨made, _⟩ := standing.ready stage
  have spawned := Machine.spawned_of_spawn spawns
  obtain ⟨directory, entered⟩ := spawned.entered
  have isPlace := Machine.directoryOf_eq (standing.leads made) rfl entered
  obtain ⟨started, found, running⟩ := spawned.found standing.bred
  have fresh : leftOne.fresh = process + 1 := spawned.fresh
  refine ⟨?_, ⟨?_, ?_, rfl, rfl, ?_⟩, ?_⟩
  · unfold step? Compilation.step
    rw [stage]
    simp only [spawns, Option.map_some, afterStep, stage, Compilation.stage_atStage, entered,
      isPlace]
    rfl
  · exact spawned.works rfl standing.bred standing.sound _ _
  · refine ⟨?_, by omega, by rw [found]; rfl, rfl, rfl⟩
    unfold Made
    rw [spawned.disk]
    exact made
  · rintro id ⟨⟩
    exact .inr spawned.given
  · unfold Machine.ending?
    rw [found]
    exact running

/-- Two calls start their compilers alike. -/
theorem Alike.matches_launch
    {outputOne outputTwo : Nat}
    (alike : Alike site.base first one second two)
    (standOne : one.Standing site first)
    (standTwo : two.Standing site second)
    (discreet : site.Discreet)
    (stageOne : one.compilation.stage = .launch outputOne)
    (stageTwo : two.compilation.stage = .launch outputTwo)
    (child : Child σ γ) :
    Matches site.base first one second two (one.step? child site.host first)
      (two.step? child site.host second) := by
  have same := alike.refusal?_spawn_eq standOne standTwo discreet stageOne stageTwo
  cases spawnsOne : first.spawn site.host (one.compilation.command outputOne) with
  | error cause =>
      cases spawnsTwo : second.spawn site.host (two.compilation.command outputTwo) with
      | ok started =>
          rw [spawnsOne, spawnsTwo] at same
          cases same
      | error other =>
          rw [spawnsOne, spawnsTwo] at same
          cases same
          refine alike.matches_of_fails standOne standTwo child cause ?_ ?_
          · unfold Compilation.step
            rw [stageOne]
            simp only [spawnsOne]
          · unfold Compilation.step
            rw [stageTwo]
            simp only [spawnsTwo]
  | ok startedOne =>
      cases spawnsTwo : second.spawn site.host (two.compilation.command outputTwo) with
      | error cause =>
          rw [spawnsOne, spawnsTwo] at same
          cases same
      | ok startedTwo =>
          obtain ⟨stepsOne, afterOne, runningOne⟩ := standOne.launch stageOne spawnsOne child
          obtain ⟨stepsTwo, afterTwo, runningTwo⟩ := standTwo.launch stageTwo spawnsTwo child
          have arguments : (one.compilation.command outputOne).arguments =
              (two.compilation.command outputTwo).arguments := by
            unfold Compilation.command
            rw [alike.settings]
          have diskOne := (Machine.spawned_of_spawn spawnsOne).disk
          have diskTwo := (Machine.spawned_of_spawn spawnsTwo).disk
          rw [stepsOne, stepsTwo]
          refine .some ⟨alike.settings, alike.job, ?_, ?_, ?_, ?_⟩ afterOne afterTwo
          · unfold launched
            simp only [Compilation.stage_atStage, alike.clock, alike.settings]
            exact .await _ (runningOne.trans runningTwo.symm)
          · exact afterOne.works.clock.trans (alike.clock.trans afterTwo.works.clock.symm)
          · unfold launched
            simp only [arguments]
          · rw [diskOne, diskTwo]
            exact alike.view

/-- A call whose compiler has ended goes on with its verdict. -/
theorem Standing.awaitEnd
    {process deadline : Nat}
    {status : ExitStatus}
    (standing : one.Standing site first)
    (stage : one.compilation.stage = .await process deadline)
    (polls : first.poll process = .ok (some status)) :
    Goes site first one (.readOutput (Compilation.verdictOf status)) (first.forget process) := by
  obtain ⟨made, _⟩ := standing.awaiting stage
  refine ⟨?_, ?_, made⟩
  · unfold Compilation.step
    rw [stage]
    simp only [polls]
    exact ⟨_, rfl⟩
  · have isOne : one.process? = some process := by
      simp only [process?, stage]
    rw [isOne]
    exact Machine.works_forget standing.bred standing.sound _ _

/-- A call whose compiler has not ended in time kills it and goes on. -/
theorem Standing.awaitOver
    {process deadline : Nat}
    (standing : one.Standing site first)
    (stage : one.compilation.stage = .await process deadline)
    (polls : first.poll process = .ok none)
    (late : Compilation.isOver first deadline = true) :
    Goes site first one (.readOutput .timedOut)
      (((first.killGroup process).killProcess process).forget process) := by
  obtain ⟨made, _⟩ := standing.awaiting stage
  refine ⟨?_, ?_, made⟩
  · unfold Compilation.step
    rw [stage]
    simp only [polls, if_pos late]
    exact ⟨_, rfl⟩
  · have isOne : one.process? = some process := by
      simp only [process?, stage]
    rw [isOne]
    have group := Machine.works_killGroup standing.bred standing.sound (one.place site.base) process
    have alone := Machine.works_killProcess group.bred group.disk.sound (one.place site.base)
      process
    exact (group.trans alone).trans
      (Machine.works_forget alone.bred alone.disk.sound _ _)

/-- A call can ask for its compiler, and hears how it has ended. -/
theorem Standing.poll_eq
    {process deadline : Nat}
    (standing : one.Standing site first)
    (stage : one.compilation.stage = .await process deadline) :
    first.poll process = .ok (first.ending? process) := by
  obtain ⟨_, _, known, _⟩ := standing.awaiting stage
  obtain ⟨found, isThere⟩ := Option.isSome_iff_exists.1 known
  unfold Machine.poll Machine.ending?
  rw [isThere]
  rfl

/-- Two calls wait for their compilers alike. -/
theorem Alike.matches_await
    {processOne processTwo deadline : Nat}
    (alike : Alike site.base first one second two)
    (standOne : one.Standing site first)
    (standTwo : two.Standing site second)
    (stageOne : one.compilation.stage = .await processOne deadline)
    (stageTwo : two.compilation.stage = .await processTwo deadline)
    (same : first.ending? processOne = second.ending? processTwo)
    (child : Child σ γ) :
    Matches site.base first one second two (one.step? child site.host first)
      (two.step? child site.host second) := by
  have pollsOne := standOne.poll_eq stageOne
  have pollsTwo := standTwo.poll_eq stageTwo
  rw [← same] at pollsTwo
  cases ended : first.ending? processOne with
  | some status =>
      rw [ended] at pollsOne pollsTwo
      exact alike.matches_of_goes child (standOne.awaitEnd stageOne pollsOne)
        (standTwo.awaitEnd stageTwo pollsTwo) alike.view (fun _ => .readOutput _) nofun nofun
  | none =>
      rw [ended] at pollsOne pollsTwo
      have sameTime : Compilation.isOver second deadline = Compilation.isOver first deadline := by
        unfold Compilation.isOver
        rw [alike.clock]
      cases late : Compilation.isOver first deadline with
      | true =>
          rw [late] at sameTime
          exact alike.matches_of_goes child (standOne.awaitOver stageOne pollsOne late)
            (standTwo.awaitOver stageTwo pollsTwo sameTime) alike.view (fun _ => .readOutput _)
            nofun nofun
      | false =>
          rw [late] at sameTime
          have stillOne : one.step? child site.host first = none := by
            unfold step? Compilation.step
            rw [stageOne]
            simp [pollsOne, late]
          have stillTwo : two.step? child site.host second = none := by
            unfold step? Compilation.step
            rw [stageTwo]
            simp [pollsTwo, sameTime]
          rw [stillOne, stillTwo]
          exact .none

/-- Two calls take their next steps alike. -/
theorem Alike.matches_step
    (alike : Alike site.base first one second two)
    (standOne : one.Standing site first)
    (standTwo : two.Standing site second)
    (discreet : site.Discreet)
    (unspoken : ∀ verdict, one.compilation.stage = .readOutput verdict → one.Discreet site first)
    (child : Child σ γ) :
    Matches site.base first one second two (one.step? child site.host first)
      (two.step? child site.host second) := by
  have stages := alike.stage
  generalize stageOne : one.compilation.stage = here at stages
  generalize stageTwo : two.compilation.stage = there at stages
  cases stages with
  | makeDirectory =>
      exact alike.matches_makeDirectory standOne standTwo stageOne stageTwo child
  | writeSource =>
      exact alike.matches_writeSource standOne standTwo stageOne stageTwo child
  | openOutput =>
      exact alike.matches_openOutput standOne standTwo stageOne stageTwo child
  | launch =>
      exact alike.matches_launch standOne standTwo discreet stageOne stageTwo child
  | await deadline same =>
      exact alike.matches_await standOne standTwo stageOne stageTwo same child
  | readOutput =>
      exact alike.matches_readOutput standOne standTwo discreet (unspoken _ stageOne) stageOne
        stageTwo child
  | clear =>
      exact alike.matches_clear standOne standTwo stageOne stageTwo child
  | done outcome =>
      unfold step? Compilation.step
      rw [stageOne, stageTwo]
      exact .none

end Pairs

end CompilePlayground.Desk
