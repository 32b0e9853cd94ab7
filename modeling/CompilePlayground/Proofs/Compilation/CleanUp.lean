import CompilePlayground.Proofs.Compilation.Dwelling

namespace CompilePlayground.Call

open Posix

/-!
# Every call cleans up after itself

All ways of a call whose directory was made lead to the one removal, with the outcome in hand.
What the removal leaves is the disk as it was, with the directories above the one of the job.
-/

section Runs

variable {host : Host} {history : List Happening} {call next : Call} {happening : Happening}

/-- The directory of a call was made, and nothing was removed yet. -/
structure Begun (history : List Happening) : Prop where
  made : ∀ cause, Happening.act .makeDirectory (some cause) ∉ history
  uncleared : ∀ outcome refused?, Happening.act (.clear outcome) refused? ∉ history

/-- How a call ends: its directory was refused and it did nothing else, or it has tried once to
remove its directory, with the outcome in hand. -/
inductive Ends (history : List Happening) (outcome : Outcome) : Prop where
  | unmade
      {cause : IoError}
      (same : outcome = .error (.directory cause))
      (refused : Happening.act .makeDirectory (some cause) ∈ history)
      (alone : ∀ stage refused?, Happening.act stage refused? ∈ history →
        stage = .makeDirectory ∧ refused? = some cause)
  | cleared
      {refused? : Option IoError}
      (made : ∀ cause, Happening.act .makeDirectory (some cause) ∉ history)
      (clears : Happening.act (.clear outcome) refused? ∈ history)
      (alone : ∀ other refused?, Happening.act (.clear other) refused? ∈ history →
        other = outcome)

/-- What a call has tried by each of its stages. -/
def Tried (history : List Happening) (call : Call) : Prop :=
  match call.compilation.stage with
  | .makeDirectory => ∀ stage refused?, Happening.act stage refused? ∉ history
  | .done outcome => Ends history outcome
  | _ => Begun history

/-- A call that does neither of the two things has still to remove its directory. -/
theorem Begun.snoc
    (begun : Begun history)
    (notMade : ∀ refused?, happening ≠ .act .makeDirectory refused?)
    (notCleared : ∀ outcome refused?, happening ≠ .act (.clear outcome) refused?) :
    Begun (history ++ [happening]) where
  made cause isThere := by
    rcases List.mem_append.1 isThere with earlier | now
    · exact begun.made cause earlier
    · exact notMade _ (List.mem_singleton.1 now).symm
  uncleared outcome refused? isThere := by
    rcases List.mem_append.1 isThere with earlier | now
    · exact begun.uncleared outcome refused? earlier
    · exact notCleared _ _ (List.mem_singleton.1 now).symm

/-- A removal that is tried after nothing was removed ends a call. -/
theorem Begun.ends
    (begun : Begun history)
    (outcome : Outcome)
    (refused? : Option IoError) :
    Ends (history ++ [.act (.clear outcome) refused?]) outcome := by
  have clears : Happening.act (.clear outcome) refused? ∈
      history ++ [.act (.clear outcome) refused?] := by
    simp
  refine .cleared (by simpa using begun.made) clears ?_
  intro other refused? isThere
  rcases List.mem_append.1 isThere with earlier | now
  · exact absurd earlier (begun.uncleared other refused?)
  · cases List.mem_singleton.1 now
    rfl

/-- What happens meanwhile does not change how a call has ended. -/
theorem Ends.meanwhile
    {outcome : Outcome}
    (ends : Ends history outcome) :
    Ends (history ++ [.meanwhile]) outcome := by
  cases ends with
  | unmade same refused alone =>
      exact .unmade same (List.mem_append_left _ refused) (by simpa using alone)
  | cleared made clears alone =>
      exact .cleared (by simpa using made) (List.mem_append_left _ clears)
        (by simpa using alone)

/-- What a call has tried is told when the system does what it asks for. -/
theorem tried_of_succeeds
    (tried : call.Tried history)
    (succeeds : Succeeds host call next) :
    next.Tried (history ++ [.act call.compilation.stage none]) := by
  unfold Tried at tried ⊢
  cases succeeds with
  | makeDirectory stage =>
      simp only [stage] at tried ⊢
      exact ⟨by simp [tried], by simp [tried]⟩
  | clear stage =>
      simp only [stage] at tried ⊢
      exact tried.ends _ none
  | writeSource stage | openOutput stage | launch stage | await stage | readOutput stage =>
      simp only [stage] at tried ⊢
      exact tried.snoc nofun nofun

/-- What a call has tried is told when the system refuses what it asks for. -/
theorem tried_of_fails
    {cause : IoError}
    {left : Machine}
    {stepped : Stepped}
    (tried : call.Tried history)
    (failed : call.compilation.fail cause left = some stepped)
    (home? : Option Path) :
    Tried (history ++ [.act call.compilation.stage (some cause)])
      ⟨stepped.compilation, stepped.machine, home?⟩ := by
  obtain ⟨fails, _⟩ := Compilation.fails_of_fail failed
  unfold Tried at tried ⊢
  simp only
  generalize stepped.compilation.stage = later at fails
  cases fails with
  | makeDirectory stage =>
      simp only [stage] at tried ⊢
      exact .unmade rfl (by simp) (by simp [tried])
  | clear stage =>
      simp only [stage] at tried ⊢
      exact tried.ends _ (some cause)
  | within begun uncleared unfinished =>
      have middle : Begun history := by
        split at tried
        next stage =>
          exact absurd stage begun
        next outcome stage =>
          exact absurd stage (unfinished outcome)
        next =>
          exact tried
      refine middle.snoc ?_ ?_
      · intro refused? same
        injection same with here
        exact begun here
      · intro outcome refused? same
        injection same with here
        exact uncleared outcome here

/-- One step of a run keeps to what a call may have tried. -/
theorem tried_of_next
    (tried : call.Tried history)
    (made : Next host call happening next) :
    next.Tried (history ++ [happening]) := by
  rcases made.cases with ⟨refused?, rfl, acts⟩ | ⟨machine, rfl, _, rfl⟩
  · cases acts with
    | succeeds succeeds =>
        exact tried_of_succeeds tried succeeds
    | fails leaves failed =>
        exact tried_of_fails tried failed _
  · unfold Tried at tried ⊢
    cases stage : call.compilation.stage with
    | makeDirectory =>
        simpa [stage] using tried
    | done outcome =>
        simp only [stage] at tried ⊢
        exact tried.meanwhile
    | writeSource | openOutput | launch | await | readOutput | clear =>
        simp only [stage] at tried ⊢
        exact tried.snoc nofun nofun

/-- What a call may have tried is all that it has tried, wherever a run leads. -/
theorem tried_of_run
    {settings : CompilerSettings}
    {job : Job}
    {machine : Machine}
    (run : Run host (begin settings job machine) history call) :
    call.Tried history := by
  induction run with
  | nil =>
      exact fun _ _ => List.not_mem_nil
  | snoc run next inductionHypothesis =>
      exact tried_of_next inductionHypothesis next

/-- All that a call promises once it has returned: the disk is clean unless the removal was
refused; without a directory nothing is removed and no compiler is started; with one, the removal
is tried whatever has happened before; and the outcome is the one that was there before the
removal. -/
structure CleansUp
    (host : Host)
    (name : Bytes)
    (before after : Disk)
    (history : List Happening)
    (outcome : Outcome) :
    Prop where
  cleanedUp : RemovesAll history → Disk.CleanedUp host.directory name before after
  unmade : ∀ cause, Happening.act .makeDirectory (some cause) ∈ history →
    outcome = .error (.directory cause) ∧
      (∀ other refused?, Happening.act (.clear other) refused? ∉ history) ∧
        ∀ output refused?, Happening.act (.launch output) refused? ∉ history
  cleared : (∀ cause, Happening.act .makeDirectory (some cause) ∉ history) →
    ∃ refused?, Happening.act (.clear outcome) refused? ∈ history
  returned : ∀ other refused?, Happening.act (.clear other) refused? ∈ history →
    other = outcome

/-- A call whose directory was refused has done nothing else, and tells what was refused. -/
theorem Ends.unmade_of_refused
    {outcome : Outcome}
    {cause : IoError}
    (ends : Ends history outcome)
    (refused : Happening.act .makeDirectory (some cause) ∈ history) :
    outcome = .error (.directory cause) ∧
      ∀ stage refused?, Happening.act stage refused? ∈ history → stage = .makeDirectory := by
  cases ends with
  | cleared made =>
      exact absurd refused (made cause)
  | unmade same _ alone =>
      obtain ⟨_, sameCause⟩ := alone _ _ refused
      cases sameCause
      exact ⟨same, fun stage refused? isThere => (alone stage refused? isThere).1⟩

/-- Whatever the system refuses and whatever the compiler does in its directory, a call whose
directory was not claimed cleans up after itself. -/
theorem cleansUp_of_run
    {settings : CompilerSettings}
    {job : Job}
    {machine : Machine}
    {outcome : Outcome}
    (sound : machine.disk.Sound)
    (unclaimed : machine.disk.Unclaimed host.directory
      (Compilation.begin settings job).directory)
    (run : Run host (begin settings job machine) history call)
    (returned : call.compilation.outcome? = some outcome) :
    CleansUp host (Compilation.begin settings job).directory machine.disk call.machine.disk
      history outcome := by
  obtain ⟨_, placed⟩ := placed_of_run sound unclaimed run
  have tried := tried_of_run run
  have stage : call.compilation.stage = .done outcome := by
    unfold Compilation.outcome? at returned
    split at returned
    next other stage =>
      cases returned
      exact stage
    next =>
      cases returned
  unfold Placed at placed
  unfold Tried at tried
  rw [stage] at placed tried
  refine ⟨placed, ?_, ?_, ?_⟩
  · intro cause refused
    obtain ⟨same, alone⟩ := tried.unmade_of_refused refused
    refine ⟨same, ?_, ?_⟩
    · intro other refused? isThere
      cases alone _ _ isThere
    · intro output refused? isThere
      cases alone _ _ isThere
  · intro made
    cases tried with
    | unmade _ refused =>
        exact absurd refused (made _)
    | cleared _ clears =>
        exact ⟨_, clears⟩
  · intro other refused? isThere
    cases tried with
    | unmade _ _ alone =>
        cases (alone _ _ isThere).1
    | cleared _ _ alone =>
        exact alone other refused? isThere

/-- What happens when a call does at most so many steps of its own, and what it is then. -/
def actsWithin (host : Host) : Nat → Call → List Happening × Call
  | 0, call => ([], call)
  | bound + 1, call =>
    match call.act? host with
    | none => ([], call)
    | some next =>
      let (history, last) := actsWithin host bound next
      (.act call.compilation.stage (call.compilation.refused? host call.machine) :: history, last)

/-- The steps of a call make a run. -/
theorem Run.acts
    {first : Call}
    (run : Run host first history call)
    (bound : Nat) :
    Run host first (history ++ (call.actsWithin host bound).1) (call.actsWithin host bound).2 := by
  induction bound generalizing history call with
  | zero =>
      simpa [actsWithin] using run
  | succ bound inductionHypothesis =>
      unfold actsWithin
      cases made : call.act? host with
      | none =>
          simpa using run
      | some next =>
          simpa using inductionHypothesis (run.snoc (.act made))

/-- Time goes by for a call that has started its compiler. -/
theorem Run.passes
    {first : Call}
    (run : Run host first history call)
    (launched : call.home?.isSome = true)
    (clock : Nat) :
    Run host first (history ++ [.meanwhile])
      { call with machine := { call.machine with clock } } := by
  refine run.snoc (.meanwhile ?_)
  unfold Allows
  split
  · obtain ⟨home, isHome⟩ := Option.isSome_iff_exists.1 launched
    exact ⟨home, isHome, .refl home _⟩
  · rfl

end Runs

namespace Sample

/-- A host that starts from the root and has no variables. -/
def host : Host :=
  ⟨[], []⟩

/-- The bytes of a text. -/
def bytes (text : String) : Bytes :=
  Text.Utf8.encode text

/-- A directory to work in, and the directory of devices. -/
def bare : Disk :=
  (Disk.empty.addDirectory [bytes "w"]).addDirectory [bytes "dev"]

/-- The device that gives nothing. -/
def furnished : Disk :=
  (bare.addFile [bytes "dev", bytes "null"]
    { content := .void, mode := 0o666, modified := 0 }).2

/-- A compiler that has nothing to say. -/
def disk : Disk :=
  (furnished.addFile [bytes "c"]
    { content := .program fun _ => .exit 0, mode := 0o755, modified := 0 }).2

/-- The compiler, one second for it, and the directory to work in. -/
def settings : CompilerSettings :=
  ⟨"/c", [], bytes "/w", .ofSeconds 1⟩

/-- A job. -/
def job : Job :=
  ⟨"0c5a1f6e-1111-4222-8333-444455556666", bytes "int main() {}"⟩

/-- A call that has started the compiler. -/
def launched : List Happening × Call :=
  (begin settings job (.ofDisk disk)).actsWithin host 4

/-- The call once the time of the compiler is over. -/
def overdue : Call :=
  { launched.2 with machine := { launched.2.machine with clock := 1000000000 } }

/-- All that the call does then. -/
def ended : List Happening × Call :=
  overdue.actsWithin host 5

/-- The run of the call. -/
theorem run :
    Run host (begin settings job (.ofDisk disk))
      (launched.1 ++ [.meanwhile] ++ ended.1) ended.2 := by
  have started : Run host (begin settings job (.ofDisk disk)) launched.1 launched.2 :=
    (Run.nil _).acts 4
  exact (started.passes (by decide +kernel) 1000000000).acts 5

/-- The disk is in order. -/
theorem sound : disk.Sound := by
  have first : (Disk.empty.addDirectory [bytes "w"]).Sound :=
    Disk.Sound.of_empty.addDirectory (Disk.node?_root _)
  have second : bare.Sound := first.addDirectory (Disk.node?_root _)
  have devices : bare.node? [bytes "dev"] = some (.directory 2) := by
    rfl
  have third : furnished.Sound := second.addFile devices rfl _
  exact third.addFile (Disk.node?_root _) rfl _

end Sample

/-- A run in which the time of the compiler goes by. -/
theorem cleansUp_of_run_of_overdue :
    ∃ history last outcome,
      Run Sample.host (begin Sample.settings Sample.job (.ofDisk Sample.disk)) history last ∧
        last.compilation.outcome? = some outcome ∧ RemovesAll history ∧
          CleansUp Sample.host (Compilation.begin Sample.settings Sample.job).directory
            Sample.disk last.machine.disk history outcome := by
  have unclaimed : Sample.disk.Unclaimed Sample.host.directory
      (Compilation.begin Sample.settings Sample.job).directory :=
    .of_isDirectory (by decide +kernel) (by decide +kernel)
  have finished : Sample.ended.2.compilation.outcome?.isSome = true := by
    decide +kernel
  have removes : RemovesAll (Sample.launched.1 ++ [.meanwhile] ++ Sample.ended.1) := by
    unfold RemovesAll
    decide +kernel
  obtain ⟨outcome, returned⟩ := Option.isSome_iff_exists.1 finished
  exact ⟨_, _, outcome, Sample.run, returned, removes,
    cleansUp_of_run Sample.sound unclaimed Sample.run returned⟩

namespace Sample

/-- A disk on which a directory has the name of the job already, with a file in it. -/
def crowded : Disk :=
  ((disk.addDirectory [bytes job.id]).addFile [bytes job.id, bytes "keep"]
    { content := .bytes [], mode := 0o644, modified := 0 }).2

/-- A directory to work in that is to be entered through one that is not there, and a compiler
that is not there either. -/
def astray : CompilerSettings :=
  { settings with program := "/none", workDirectory := bytes "new/.." }

/-- A call that makes the missing directory, and so comes to the one that was there. -/
def intruding : List Happening × Call :=
  (begin astray job (.ofDisk crowded)).actsWithin host 6

theorem sound_crowded : crowded.Sound := by
  have first : (disk.addDirectory [bytes job.id]).Sound :=
    sound.addDirectory (Disk.node?_root _)
  have taken : (disk.addDirectory [bytes job.id]).node? [bytes job.id] =
      some (.directory 5) := by
    rfl
  exact first.addFile taken rfl _

end Sample

/-- A name that leads to nothing may lead to something once the directories above it are made, and
then a call takes away what was there. -/
theorem intruding_removes :
    Sample.crowded.Sound ∧
      (∀ place node, Sample.crowded.find (some Sample.host.directory) true
        (Compilation.begin Sample.astray Sample.job).directory ≠ .ok (place, node)) ∧
      ∃ history last,
        Run Sample.host (begin Sample.astray Sample.job (.ofDisk Sample.crowded)) history last ∧
          (∃ outcome, last.compilation.outcome? = some outcome) ∧ RemovesAll history ∧
            ¬∀ path node, Sample.crowded.node? path = some node →
              last.machine.disk.node? path = some node := by
  have nowhere : (Sample.crowded.find (some Sample.host.directory) true
      (Compilation.begin Sample.astray Sample.job).directory).toOption = none := by
    decide +kernel
  have finished : Sample.intruding.2.compilation.outcome?.isSome = true := by
    decide +kernel
  have removes : RemovesAll Sample.intruding.1 := by
    unfold RemovesAll
    decide +kernel
  have taken : Sample.crowded.node? [Sample.bytes Sample.job.id] = some (.directory 5) := by
    decide +kernel
  have gone : Sample.intruding.2.machine.disk.node? [Sample.bytes Sample.job.id] = none := by
    decide +kernel
  refine ⟨Sample.sound_crowded, ?_, Sample.intruding.1, Sample.intruding.2, (Run.nil _).acts 6,
    Option.isSome_iff_exists.1 finished, removes, ?_⟩
  · intro place node found
    rw [found] at nowhere
    cases nowhere
  · intro kept
    rw [kept _ _ taken] at gone
    cases gone

end CompilePlayground.Call
