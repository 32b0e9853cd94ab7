import CompilePlayground.Proofs.Compilation.Call

namespace CompilePlayground.Call

open Posix

/-!
# What a call does to the disk

Until its directory is made a call has changed nothing, and from then on nothing but the
directory and those above it. Each step of a run keeps to that, whatever the system refuses and
whatever the compiler does in its directory.
-/

/-- Whether the removal of the directory of the job was refused. -/
def isRemaining : Happening → Bool
  | .act (.clear _) (some _) => true
  | _ => false

/-- Nothing was refused when the directory of the job was removed. -/
def RemovesAll (history : List Happening) : Prop :=
  ∀ happening ∈ history, isRemaining happening = false

/-- What is known of the directory at some stages: that nothing is in the way of the two files,
and that the compiler was started there. -/
def Knows (call : Call) (place : Path) (above : Disk) : Prop :=
  match call.compilation.stage with
  | .writeSource =>
    above.fresh ≤ call.machine.disk.fresh ∧
      ∀ step, call.machine.disk.node? (place ++ [step]) = none
  | .openOutput =>
    above.fresh ≤ call.machine.disk.fresh ∧
      call.machine.disk.node? (place ++ [Text.Utf8.encode Compilation.outputName]) = none
  | .await _ _ => call.home? = some place
  | _ => True

/-- The directory of a call is there, below those that were made above it. -/
def Dwells (host : Host) (name : Bytes) (before : Disk) (call : Call) : Prop :=
  name ≠ [] → ∃ above place,
    Disk.Raised host.directory (fun other => Path.IsAbove other name) before above ∧
      Disk.Housed host.directory name place above call.machine.disk ∧
        call.Knows place above

/-- What a call has done to the disk by each of its stages. -/
def Placed
    (host : Host)
    (name : Bytes)
    (before : Disk)
    (history : List Happening)
    (call : Call) :
    Prop :=
  match call.compilation.stage with
  | .makeDirectory => call.machine.disk = before
  | .done _ =>
    RemovesAll history → Disk.CleanedUp host.directory name before call.machine.disk
  | _ => call.Dwells host name before

section Runs

variable {host : Host} {name : Bytes} {before : Disk} {history : List Happening}
variable {call next : Call} {happening : Happening}

/-- Nothing was refused in a run that has gone on without a refusal. -/
theorem RemovesAll.of_append
    (removes : RemovesAll (history ++ [happening])) :
    RemovesAll history := by
  intro other isThere
  exact removes other (List.mem_append_left _ isThere)

/-- What a directory that was just made is. -/
theorem dwells_makeDirectory
    (sound : before.Sound)
    (unclaimed : before.Unclaimed host.directory name)
    {machine made : Machine}
    (same : machine.disk = before)
    (makes : machine.createDirectories host name = .ok made)
    (stage : next.compilation.stage = .writeSource)
    (onMachine : next.machine = made) :
    next.Dwells host name before := by
  intro named
  subst onMachine
  obtain ⟨_, disk, created, onDisk⟩ := Machine.createDirectories_eq_ok.1 makes
  have making := unclaimed.making sound named
  rw [same] at created
  unfold Disk.createDirectories at created
  generalize before.tryDirectories (some host.directory) name = result at making created
  cases making with
  | failed =>
      cases created
  | made above place raised awaits =>
      cases created
      have shape : next.machine.disk = above.addDirectory place := by
        rw [← onDisk]
        rfl
      refine ⟨above, place, raised, ?_, ?_⟩
      · rw [shape]
        exact .addDirectory raised.sound awaits
      · unfold Knows
        rw [stage]
        simp only [shape]
        refine ⟨Nat.le_succ _, fun step => ?_⟩
        rw [Disk.node?_addDirectory above awaits.ne_nil, if_neg (by simp)]
        exact raised.sound.vacant_within awaits.vacant.1 [step]

/-- A call whose directory is there is one that dwells in it. -/
theorem Placed.dwells
    (placed : call.Placed host name before history)
    (begun : call.compilation.stage ≠ .makeDirectory)
    (unfinished : ∀ outcome, call.compilation.stage ≠ .done outcome) :
    call.Dwells host name before := by
  unfold Placed at placed
  split at placed
  next stage =>
    exact absurd stage begun
  next outcome stage =>
    exact absurd stage (unfinished outcome)
  next =>
    exact placed

/-- A call that dwells in its directory has done no more than that. -/
theorem Dwells.placed
    (dwells : call.Dwells host name before)
    (begun : call.compilation.stage ≠ .makeDirectory)
    (unfinished : ∀ outcome, call.compilation.stage ≠ .done outcome) :
    call.Placed host name before history := by
  unfold Placed
  split
  next stage =>
    exact absurd stage begun
  next outcome stage =>
    exact absurd stage (unfinished outcome)
  next =>
    exact dwells

/-- The directory of a call stays when the system does what the call asks for in it. -/
theorem dwells_of_succeeds
    (dwells : call.Dwells host call.compilation.directory before)
    (succeeds : Succeeds host call next)
    (begun : call.compilation.stage ≠ .makeDirectory)
    (unfinished : ∀ outcome, next.compilation.stage ≠ .done outcome) :
    next.Dwells host call.compilation.directory before := by
  intro named
  obtain ⟨above, place, raised, housed, knows⟩ := dwells named
  unfold Knows at knows
  cases succeeds with
  | makeDirectory stage =>
      exact absurd stage begun
  | writeSource stage filled =>
      rw [stage] at knows
      obtain ⟨later, vacant⟩ := knows
      have gains := Machine.gains_of_fillFile housed.leads Compilation.isPlain_sourceName (by decide)
        (vacant _) filled
      refine ⟨above, place, raised, housed.gains later gains, ?_, ?_⟩
      · rw [gains.fresh]
        exact Nat.le_succ_of_le later
      · rw [gains.nodes, if_neg, vacant]
        rw [List.append_cancel_left_eq]
        decide
  | openOutput stage opened =>
      rw [stage] at knows
      have gains := Machine.gains_of_openEmptied housed.leads Compilation.isPlain_outputName (by decide)
        knows.2 opened
      exact ⟨above, place, raised, housed.gains knows.1 gains, trivial⟩
  | launch stage spawned =>
      have launched := Machine.spawned_of_spawn spawned
      obtain ⟨directory, entered⟩ := launched.entered
      refine ⟨above, place, raised, ?_, ?_⟩
      · rw [launched.disk]
        exact housed
      · have isPlace := Machine.directoryOf_eq housed.leads rfl entered
        simp only [Knows, Compilation.stage_atStage, entered, isPlace]
        rfl
  | await stage same =>
      refine ⟨above, place, raised, ?_, trivial⟩
      rw [same]
      exact housed
  | readOutput stage =>
      exact ⟨above, place, raised, housed, trivial⟩
  | clear stage =>
      exact absurd rfl (unfinished _)

/-- The directory of a call stays when the system refuses what the call asks for in it. -/
theorem housed_of_leaves
    {left : Machine}
    {place : Path}
    {above : Disk}
    (housed : Disk.Housed host.directory call.compilation.directory place above
      call.machine.disk)
    (knows : call.Knows place above)
    (leaves : call.compilation.Leaves host call.machine left)
    (begun : call.compilation.stage ≠ .makeDirectory)
    (uncleared : ∀ outcome, call.compilation.stage ≠ .clear outcome) :
    Disk.Housed host.directory call.compilation.directory place above left.disk := by
  unfold Compilation.Leaves at leaves
  unfold Knows at knows
  cases stage : call.compilation.stage with
  | makeDirectory =>
      exact absurd stage begun
  | clear outcome =>
      exact absurd stage (uncleared outcome)
  | writeSource =>
      rw [stage] at leaves knows
      rcases leaves with rfl | ⟨bytes, filled⟩
      · exact housed
      · exact housed.gains knows.1
          (Machine.gains_of_fillFile housed.leads Compilation.isPlain_sourceName (by decide)
            (knows.2 _) filled)
  | openOutput =>
      rw [stage] at leaves knows
      rcases leaves with rfl | ⟨output, opened⟩
      · exact housed
      · exact housed.gains knows.1
          (Machine.gains_of_openEmptied housed.leads Compilation.isPlain_outputName (by decide)
            knows.2 opened)
  | launch | await | readOutput | done =>
      rw [stage] at leaves
      rw [leaves]
      exact housed

theorem named_of_removeTree
    {machine made : Machine}
    (removed : machine.removeTree host name = .ok made) :
    name ≠ [] := by
  rintro rfl
  obtain ⟨_, _, erased, _⟩ := Machine.removeTree_eq_ok.1 removed
  cases erased

/-- A call that gets what it asks for has done what it is to have done by then. -/
theorem placed_of_succeeds
    (sound : before.Sound)
    (unclaimed : before.Unclaimed host.directory call.compilation.directory)
    (placed : call.Placed host call.compilation.directory before history)
    (succeeds : Succeeds host call next)
    (happening : Happening) :
    next.Placed host call.compilation.directory before (history ++ [happening]) := by
  by_cases begun : call.compilation.stage = .makeDirectory
  · unfold Placed at placed
    rw [begun] at placed
    cases succeeds with
    | makeDirectory stage made =>
        exact dwells_makeDirectory sound unclaimed placed made rfl rfl
    | writeSource stage | openOutput stage | launch stage | await stage | readOutput stage
      | clear stage =>
        rw [stage] at begun
        cases begun
  · have dwells := placed.dwells begun (by
      intro outcome stage
      cases succeeds <;> simp_all)
    by_cases unfinished : ∀ outcome, next.compilation.stage ≠ .done outcome
    · have stays := dwells_of_succeeds dwells succeeds begun unfinished
      exact stays.placed (by cases succeeds <;> simp_all) unfinished
    · cases succeeds with
      | clear stage removed =>
          intro _
          obtain ⟨above, place, raised, housed, _⟩ := dwells (named_of_removeTree removed)
          obtain ⟨_, disk, erased, rfl⟩ := Machine.removeTree_eq_ok.1 removed
          exact housed.cleanedUp raised erased
      | makeDirectory | writeSource | openOutput | launch | await | readOutput =>
          exact absurd (by simp) unfinished

/-- A call that is refused what it asks for has done what it is to have done by then, unless it
was the removal that was refused. -/
theorem placed_of_fails
    {cause : IoError}
    {left : Machine}
    {stepped : Stepped}
    (sound : before.Sound)
    (unclaimed : before.Unclaimed host.directory call.compilation.directory)
    (placed : call.Placed host call.compilation.directory before history)
    (leaves : call.compilation.Leaves host call.machine left)
    (failed : call.compilation.fail cause left = some stepped)
    (home? : Option Path) :
    Placed host call.compilation.directory before
      (history ++ [.act call.compilation.stage (some cause)])
      ⟨stepped.compilation, stepped.machine, home?⟩ := by
  obtain ⟨fails, same⟩ := Compilation.fails_of_fail failed
  unfold Placed
  simp only
  generalize shape : stepped.compilation.stage = later at fails
  cases fails with
  | makeDirectory stage =>
      intro _
      unfold Placed at placed
      unfold Compilation.Leaves at leaves
      rw [stage] at placed leaves
      obtain ⟨disk, interrupted, rfl⟩ := leaves
      simp only at placed
      rw [placed] at interrupted
      rw [same]
      exact (interrupted.raised sound).cleanedUp
        (unclaimed.not_found_of_interrupted interrupted)
  | @clear outcome stage =>
      intro removes
      have refused := removes _ (List.mem_append_right history (List.mem_singleton.2 rfl))
      rw [stage] at refused
      cases refused
  | within begun uncleared unfinished =>
      intro named
      obtain ⟨above, place, raised, housed, knows⟩ := placed.dwells begun unfinished named
      refine ⟨above, place, raised, ?_, ?_⟩
      · simp only [same]
        exact housed_of_leaves housed knows leaves begun uncleared
      · simp only [Knows, shape]

/-- A call has done no more when something else has happened. -/
theorem placed_meanwhile
    {machine : Machine}
    (placed : call.Placed host name before history)
    (allowed : call.Allows machine) :
    Placed host name before (history ++ [.meanwhile]) { call with machine } := by
  unfold Allows at allowed
  unfold Placed at placed ⊢
  cases stage : call.compilation.stage with
  | makeDirectory =>
      simp only [stage] at allowed placed ⊢
      rw [allowed, placed]
  | done outcome =>
      simp only [stage] at allowed placed ⊢
      intro removes
      rw [allowed]
      exact placed removes.of_append
  | await process deadline =>
      simp only [stage] at allowed placed ⊢
      intro named
      obtain ⟨above, place, raised, housed, knows⟩ := placed named
      obtain ⟨home, isHome, changed⟩ := allowed
      simp only [Knows, stage] at knows
      rw [isHome, Option.some.injEq] at knows
      subst knows
      refine ⟨above, home, raised, housed.within changed.outside changed.stays, ?_⟩
      simp only [Knows, stage]
      exact isHome
  | writeSource | openOutput | launch | readOutput | clear =>
      simp only [stage] at allowed placed ⊢
      unfold Dwells at placed ⊢
      simp only [Knows, stage, allowed] at placed ⊢
      exact placed

/-- One step of a run keeps to what a call may have done. -/
theorem placed_of_next
    (sound : before.Sound)
    (unclaimed : before.Unclaimed host.directory call.compilation.directory)
    (placed : call.Placed host call.compilation.directory before history)
    (made : Next host call happening next) :
    next.Placed host call.compilation.directory before (history ++ [happening]) := by
  rcases made.cases with ⟨refused?, rfl, acts⟩ | ⟨machine, rfl, allowed, rfl⟩
  · cases acts with
    | succeeds succeeds =>
        exact placed_of_succeeds sound unclaimed placed succeeds _
    | fails leaves failed =>
        exact placed_of_fails sound unclaimed placed leaves failed _
  · exact placed_meanwhile placed allowed

/-- A call has one directory in all of a run. -/
theorem directory_of_next
    (made : Next host call happening next) :
    next.compilation.directory = call.compilation.directory := by
  cases made with
  | act made =>
      obtain ⟨stepped, steps, rfl⟩ := Option.map_eq_some_iff.1 made
      obtain ⟨stage, same⟩ := Compilation.step_keeps steps
      simp only [same, Compilation.directory_atStage]
  | refuse leaves failed =>
      obtain ⟨stage, same⟩ := Compilation.fail_keeps failed
      simp only [same, Compilation.directory_atStage]
  | meanwhile =>
      rfl

/-- What a call may have done is all that it has done, wherever a run leads. -/
theorem placed_of_run
    {settings : CompilerSettings}
    {job : Job}
    {machine : Machine}
    (sound : machine.disk.Sound)
    (unclaimed : machine.disk.Unclaimed host.directory
      (Compilation.begin settings job).directory)
    (run : Run host (begin settings job machine) history call) :
    call.compilation.directory = (Compilation.begin settings job).directory ∧
      call.Placed host (Compilation.begin settings job).directory machine.disk history := by
  induction run with
  | nil =>
      exact ⟨rfl, rfl⟩
  | snoc run next inductionHypothesis =>
      obtain ⟨same, placed⟩ := inductionHypothesis
      rw [← same] at unclaimed placed ⊢
      exact ⟨directory_of_next next, placed_of_next sound unclaimed placed next⟩

end Runs

end CompilePlayground.Call
