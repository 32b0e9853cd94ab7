import CompilePlayground.Proofs.Compilation.CleanUp
import CompilePlayground.Proofs.Compilation.Clearing
import CompilePlayground.Proofs.Compilation.Starting
import Mathlib.Data.List.Infix

namespace CompilePlayground

open Posix

/-!
# Jobs do not influence one another

Whatever the order in which desks take their turns, each job comes to what it comes to when it is
the only one, and once all are done nothing is left of them, as long as nobody speaks of the
directory of another job. A link that does, or a compiler that is called by such a name, lets jobs
see each other.
-/

namespace Workshop

variable {σ γ : Type} {site : Site} {workshop next solo : Workshop σ}

/-- A workshop in which every desk is in order, with a job and a process of its own. -/
structure Orderly (site : Site) (workshop : Workshop σ) : Prop where
  undisturbed : Undisturbed site.base site.jobs site.disk workshop.machine.disk
  sound : workshop.machine.disk.Sound
  standing : ∀ (index : Nat) (desk : Desk σ), workshop.desks[index]? = some desk →
    desk.Standing site workshop.machine
  jobs : ∀ (index another : Nat) (desk other : Desk σ), workshop.desks[index]? = some desk →
    workshop.desks[another]? = some other → index ≠ another →
      other.compilation.job.id ≠ desk.compilation.job.id
  processes : ∀ (index another : Nat) (desk other : Desk σ), workshop.desks[index]? = some desk →
    workshop.desks[another]? = some other → index ≠ another →
      ∀ id, desk.process? = some id → other.process? ≠ some id

/-- One desk of a workshop and the only desk of another one do the same job alike. -/
structure Mirrors
    (site : Site)
    (workshop : Workshop σ)
    (index : Nat)
    (solo : Workshop σ) :
    Prop where
  orderly : solo.Orderly site
  alike : ∃ desk twin, workshop.desks[index]? = some desk ∧ solo.desks = [twin] ∧
    Desk.Alike site.base workshop.machine desk solo.machine twin

/-- What a turn at a desk is. -/
theorem turn?_desk
    {child : Child σ γ}
    {host : Host}
    {index : Nat}
    {deed : Desk.Deed γ} :
    workshop.turn? child host (.desk index deed) = some next ↔
      ∃ desk machine later, workshop.desks[index]? = some desk ∧
        desk.does? child host workshop.machine deed = some (machine, later) ∧
          (⟨machine, workshop.desks.set index later⟩ : Workshop σ) = next := by
  simp only [turn?, Option.bind_eq_bind, Option.bind_eq_some_iff, Prod.exists, Option.some.injEq]
  constructor
  · rintro ⟨desk, found, machine, later, does, rfl⟩
    exact ⟨desk, machine, later, found, does, rfl⟩
  · rintro ⟨desk, machine, later, found, does, rfl⟩
    exact ⟨desk, found, machine, later, does, rfl⟩

/-- A desk of a workshop in which one has changed is that one or as it was. -/
theorem getElem?_set_cases
    {desks : List (Desk σ)}
    {index another : Nat}
    {later desk : Desk σ}
    (found : (desks.set index later)[another]? = some desk) :
    another = index ∧ desk = later ∨ another ≠ index ∧ desks[another]? = some desk := by
  rw [List.getElem?_set] at found
  split at found
  next here =>
    split at found
    · cases found
      exact .inl ⟨here.symm, rfl⟩
    · cases found
  next differs =>
    exact .inr ⟨Ne.symm differs, found⟩

/-- Work at one desk leaves a workshop in order. -/
theorem Orderly.set
    {index : Nat}
    {desk later : Desk σ}
    {machine : Machine}
    (orderly : workshop.Orderly site)
    (here : workshop.desks[index]? = some desk)
    (after : Desk.After site.base workshop.machine desk machine later) :
    (⟨machine, workshop.desks.set index later⟩ : Workshop σ).Orderly site where
  undisturbed :=
    orderly.undisturbed.touches after.works.disk (orderly.standing index desk here).job
  sound := after.works.disk.sound
  standing another other found := by
    rcases getElem?_set_cases found with ⟨rfl, rfl⟩ | ⟨differs, found⟩
    · exact (orderly.standing another desk here).of_after after
    · exact (orderly.standing another other found).of_works after.works
        (orderly.standing index desk here).job
        (orderly.jobs index another desk other here found (Ne.symm differs))
        (orderly.processes index another desk other here found (Ne.symm differs))
  jobs first second one other foundOne foundOther apart := by
    rcases getElem?_set_cases foundOne with ⟨rfl, rfl⟩ | ⟨_, oldOne⟩
    · rcases getElem?_set_cases foundOther with ⟨rfl, rfl⟩ | ⟨_, oldOther⟩
      · exact absurd rfl apart
      · rw [after.job]
        exact orderly.jobs first second desk other here oldOther apart
    · rcases getElem?_set_cases foundOther with ⟨rfl, rfl⟩ | ⟨_, oldOther⟩
      · rw [after.job]
        exact orderly.jobs first second one desk oldOne here apart
      · exact orderly.jobs first second one other oldOne oldOther apart
  processes first second one other foundOne foundOther apart id isOne isOther := by
    rcases getElem?_set_cases foundOne with ⟨rfl, rfl⟩ | ⟨_, oldOne⟩
    · rcases getElem?_set_cases foundOther with ⟨rfl, rfl⟩ | ⟨_, oldOther⟩
      · exact absurd rfl apart
      · rcases after.process id isOne with same | new
        · exact orderly.processes first second desk other here oldOther apart id same isOther
        · have given := (orderly.standing second other oldOther).process_given id isOther
          omega
    · rcases getElem?_set_cases foundOther with ⟨rfl, rfl⟩ | ⟨_, oldOther⟩
      · rcases after.process id isOther with same | new
        · exact orderly.processes first second one desk oldOne here apart id isOne same
        · have given := (orderly.standing first one oldOne).process_given id isOne
          omega
      · exact orderly.processes first second one other oldOne oldOther apart id isOne isOther

/-- A workshop is in order whatever the time. -/
theorem Orderly.wait
    (orderly : workshop.Orderly site)
    (clock : Nat) :
    ({ workshop with machine := { workshop.machine with clock } }).Orderly site where
  undisturbed := orderly.undisturbed
  sound := orderly.sound
  standing index desk found := by
    have standing := orderly.standing index desk found
    exact ⟨standing.sound, standing.bred, standing.undisturbed, standing.settings, standing.job,
      standing.stands⟩
  jobs := orderly.jobs
  processes := orderly.processes

/-- At a desk of a discreet workshop no link speaks of another job when the output is to be read. -/
theorem Discreet.unspoken
    {index : Nat}
    {desk : Desk σ}
    (discreet : workshop.Discreet site)
    (found : workshop.desks[index]? = some desk)
    (verdict : Verdict)
    (stage : desk.compilation.stage = .readOutput verdict) :
    desk.Discreet site workshop.machine :=
  discreet desk (List.mem_of_getElem? found) verdict stage

/-- A workshop stays in order. -/
theorem Orderly.turn
    {child : Child σ γ}
    {turn : Turn γ}
    (orderly : workshop.Orderly site)
    (secluded : site.Discreet)
    (discreet : workshop.Discreet site)
    (turns : workshop.turn? child site.host turn = some next) :
    next.Orderly site := by
  cases turn with
  | wait moment =>
      cases turns
      exact orderly.wait _
  | desk index deed =>
      obtain ⟨desk, machine, later, found, does, rfl⟩ := turn?_desk.1 turns
      exact orderly.set found
        ((orderly.standing index desk found).after_does secluded (discreet.unspoken found) does)

/-- Time goes by for two workshops alike. -/
theorem Mirrors.wait
    {index : Nat}
    (mirrors : workshop.Mirrors site index solo)
    (moment : Nat) :
    Mirrors site
      { workshop with
        machine := { workshop.machine with clock := max workshop.machine.clock moment } }
      index
      { solo with machine := { solo.machine with clock := max solo.machine.clock moment } } := by
  obtain ⟨desk, twin, found, only, alike⟩ := mirrors.alike
  refine ⟨mirrors.orderly.wait _, desk, twin, found, only, ?_⟩
  exact
    { settings := alike.settings
      job := alike.job
      stage := alike.stage
      clock := by
        simp only [alike.clock]
      child? := alike.child?
      view := alike.view }

/-- What is done at the one desk is done at its twin. -/
theorem Mirrors.own
    {index : Nat}
    {child : Child σ γ}
    {deed : Desk.Deed γ}
    (mirrors : workshop.Mirrors site index solo)
    (orderly : workshop.Orderly site)
    (secluded : site.Discreet)
    (discreet : workshop.Discreet site)
    (turns : workshop.turn? child site.host (.desk index deed) = some next) :
    ∃ later, solo.turn? child site.host (.desk 0 deed) = some later ∧
      next.Mirrors site index later := by
  obtain ⟨desk, twin, found, only, alike⟩ := mirrors.alike
  obtain ⟨_, machine, later, here, does, rfl⟩ := turn?_desk.1 turns
  rw [found] at here
  cases here
  have there : solo.desks[0]? = some twin := by
    rw [only]
    rfl
  have matching := alike.matches_does (orderly.standing index desk found)
    (mirrors.orderly.standing 0 twin there) secluded (discreet.unspoken found) child deed
  rw [does] at matching
  generalize done : twin.does? child site.host solo.machine deed = result at matching
  cases matching with
  | @some _ soloMachine _ soloLater alikeLater _ afterTwin =>
      refine ⟨⟨soloMachine, solo.desks.set 0 soloLater⟩,
        turn?_desk.2 ⟨twin, soloMachine, soloLater, there, done, rfl⟩,
        mirrors.orderly.set there afterTwin, later, soloLater, ?_, ?_, alikeLater⟩
      · simp only [List.getElem?_set_self', found, Option.map_eq_map, Option.map_some]
        rfl
      · simp only [only]
        rfl

/-- What is done at another desk is not seen at the one. -/
theorem Mirrors.others
    {index another : Nat}
    {child : Child σ γ}
    {deed : Desk.Deed γ}
    (mirrors : workshop.Mirrors site index solo)
    (orderly : workshop.Orderly site)
    (secluded : site.Discreet)
    (discreet : workshop.Discreet site)
    (differs : another ≠ index)
    (turns : workshop.turn? child site.host (.desk another deed) = some next) :
    next.Mirrors site index solo := by
  obtain ⟨desk, twin, found, only, alike⟩ := mirrors.alike
  obtain ⟨other, machine, later, there, does, rfl⟩ := turn?_desk.1 turns
  have standing := orderly.standing another other there
  refine ⟨mirrors.orderly, desk, twin, ?_, only, ?_⟩
  · simp only [List.getElem?_set_ne differs]
    exact found
  · exact alike.of_works
      (standing.after_does secluded (discreet.unspoken there) does).works standing.sound
      (orderly.jobs another index other desk there found differs)
      (orderly.standing index desk found).process_given
      (orderly.processes another index other desk there found differs)

/-- What holds at every moment of a run holds when it begins. -/
theorem Throughout.begins
    {child : Child σ γ}
    {host : Host}
    {holds : Workshop σ → Prop}
    {turns : List (Turn γ)}
    (throughout : Throughout child host holds workshop turns) :
    holds workshop :=
  throughout [] workshop (List.nil_prefix) rfl

/-- What holds at every moment of a run holds at every moment after its first turn. -/
theorem Throughout.onward
    {child : Child σ γ}
    {host : Host}
    {holds : Workshop σ → Prop}
    {turn : Turn γ}
    {turns : List (Turn γ)}
    (throughout : Throughout child host holds workshop (turn :: turns))
    (first : workshop.turn? child host turn = some next) :
    Throughout child host holds next turns := by
  intro early between isEarly run
  refine throughout (turn :: early) between ((List.prefix_cons_inj turn).2 isEarly) ?_
  unfold turns?
  rw [List.foldlM_cons, first]
  exact run

/-- Whatever happens in a workshop, a desk stays like its twin, which takes only the turns of its
own. -/
theorem Mirrors.turns
    {index : Nat}
    {child : Child σ γ}
    {turns : List (Turn γ)}
    (mirrors : workshop.Mirrors site index solo)
    (orderly : workshop.Orderly site)
    (secluded : site.Discreet)
    (discreet : Throughout child site.host (Discreet site) workshop turns)
    (run : workshop.turns? child site.host turns = some next) :
    ∃ later, solo.turns? child site.host (turns.filterMap (Turn.alone? index)) = some later ∧
      next.Mirrors site index later := by
  induction turns generalizing workshop solo with
  | nil =>
      cases run
      exact ⟨solo, rfl, mirrors⟩
  | cons turn rest inductionHypothesis =>
      unfold turns? at run
      rw [List.foldlM_cons, Option.bind_eq_bind, Option.bind_eq_some_iff] at run
      obtain ⟨between, first, onward⟩ := run
      have stillOrderly := orderly.turn secluded discreet.begins first
      have stillDiscreet := discreet.onward first
      cases turn with
      | wait moment =>
          cases first
          exact inductionHypothesis (mirrors.wait moment) stillOrderly stillDiscreet onward
      | desk another deed =>
          by_cases own : another = index
          · subst own
            obtain ⟨soloBetween, soloFirst, stillMirrors⟩ :=
              mirrors.own orderly secluded discreet.begins first
            obtain ⟨later, soloOnward, mirrored⟩ :=
              inductionHypothesis stillMirrors stillOrderly stillDiscreet onward
            refine ⟨later, ?_, mirrored⟩
            have kept : Turn.alone? another (.desk another deed) = some (.desk 0 deed) :=
              if_pos rfl
            rw [List.filterMap_cons_some kept]
            unfold turns?
            rw [List.foldlM_cons, soloFirst]
            exact soloOnward
          · rw [List.filterMap_cons_none (by simp only [Turn.alone?, if_neg own])]
            exact inductionHypothesis (mirrors.others orderly secluded discreet.begins own first)
              stillOrderly stillDiscreet onward

/-- A workshop in which nothing has been done for some of the jobs of a site is in order. -/
theorem orderly_begin
    (site : Site)
    {jobs : List Job}
    (known : ∀ job ∈ jobs, job ∈ site.jobs)
    (distinct : (jobs.map Job.id).Nodup) :
    (begin site.settings site.disk jobs : Workshop σ).Orderly site where
  undisturbed := ⟨fun _ _ => rfl, fun _ _ => rfl, Nat.le_refl _⟩
  sound := site.sound
  standing index desk found := by
    simp only [begin, List.getElem?_map, Option.map_eq_some_iff] at found
    obtain ⟨job, isJob, rfl⟩ := found
    have member := known job (List.mem_of_getElem? isJob)
    exact
      { sound := site.sound
        bred := by
          intro process isThere
          cases isThere
        undisturbed := ⟨fun _ _ => rfl, fun _ _ => rfl, Nat.le_refl _⟩
        settings := rfl
        job := member
        stands := site.vacant job member }
  jobs index another desk other found foundOther differs same := by
    simp only [begin, List.getElem?_map, Option.map_eq_some_iff] at found foundOther
    obtain ⟨job, isJob, rfl⟩ := found
    obtain ⟨otherJob, isOther, rfl⟩ := foundOther
    have sameId : (jobs.map Job.id)[another]? = (jobs.map Job.id)[index]? := by
      rw [List.getElem?_map, List.getElem?_map, isJob, isOther]
      exact congrArg some same
    refine differs ((List.getElem?_inj ?_ distinct).1 sameId.symm)
    rw [List.length_map]
    exact (List.getElem?_eq_some_iff.1 isJob).1
  processes index another desk other found _ _ id isProcess := by
    simp only [begin, List.getElem?_map, Option.map_eq_some_iff] at found
    obtain ⟨job, _, rfl⟩ := found
    cases isProcess

/-- What holds of a workshop still does after several turns when it does after each of them. -/
theorem turns_induction
    {child : Child σ γ}
    {host : Host}
    {holds : Workshop σ → Prop}
    {turns : List (Turn γ)}
    (motive : Workshop σ → Prop)
    (throughout : Throughout child host holds workshop turns)
    (onward : ∀ turn ∈ turns, ∀ workshop next : Workshop σ, holds workshop → motive workshop →
      workshop.turn? child host turn = some next → motive next)
    (first : motive workshop)
    (run : workshop.turns? child host turns = some next) :
    motive next := by
  induction turns generalizing workshop with
  | nil =>
      cases run
      exact first
  | cons turn rest inductionHypothesis =>
      unfold turns? at run
      rw [List.foldlM_cons, Option.bind_eq_bind, Option.bind_eq_some_iff] at run
      obtain ⟨between, taken, after⟩ := run
      exact inductionHypothesis (throughout.onward taken)
        (fun later member => onward later (List.mem_cons_of_mem _ member))
        (onward turn List.mem_cons_self workshop between throughout.begins first taken) after

/-- The jobs of a workshop. -/
def jobs (workshop : Workshop σ) : List Job :=
  workshop.desks.map fun desk => desk.compilation.job

/-- A workshop in which nothing is left of jobs that are done. -/
def Cleared (site : Site) (workshop : Workshop σ) : Prop :=
  ∀ (index : Nat) (desk : Desk σ) (outcome : Outcome), workshop.desks[index]? = some desk →
    desk.compilation.stage = .done outcome →
      workshop.machine.disk.node? (desk.place site.base) = none

/-- Every desk keeps its job. -/
theorem Orderly.jobs_eq
    {child : Child σ γ}
    {turn : Turn γ}
    (orderly : workshop.Orderly site)
    (secluded : site.Discreet)
    (discreet : workshop.Discreet site)
    (turns : workshop.turn? child site.host turn = some next) :
    next.jobs = workshop.jobs := by
  cases turn with
  | wait moment =>
      cases turns
      rfl
  | desk index deed =>
      obtain ⟨desk, machine, later, found, does, rfl⟩ := turn?_desk.1 turns
      have after :=
        (orderly.standing index desk found).after_does secluded (discreet.unspoken found) does
      apply List.ext_getElem?
      intro another
      simp only [Workshop.jobs, List.getElem?_map, List.getElem?_set]
      split
      next here =>
        subst here
        rw [found, if_pos (List.getElem?_eq_some_iff.1 found).1]
        exact congrArg some after.job
      next =>
        rfl

/-- Nothing is left of jobs that are done as long as the system removes their directories. -/
theorem Cleared.turn
    {child : Child σ γ}
    {turn : Turn γ}
    (cleared : workshop.Cleared site)
    (orderly : workshop.Orderly site)
    (secluded : site.Discreet)
    (discreet : workshop.Discreet site)
    (removing : turn.isSparing = false)
    (turns : workshop.turn? child site.host turn = some next) :
    next.Cleared site := by
  cases turn with
  | wait moment =>
      cases turns
      exact cleared
  | desk index deed =>
      obtain ⟨desk, machine, later, here, does, rfl⟩ := turn?_desk.1 turns
      have standing := orderly.standing index desk here
      have after := standing.after_does secluded (discreet.unspoken here) does
      intro another other outcome found done
      rcases getElem?_set_cases found with ⟨rfl, rfl⟩ | ⟨differs, found⟩
      · unfold Desk.place
        rw [after.job]
        refine standing.vacant_of_does does ?_ done
        rintro cause remains? rfl
        cases removing
      · have apart := orderly.jobs index another desk other here found (Ne.symm differs)
        have same := after.works.disk.nodes (other.place site.base ++ []) (Job.isWithin_place apart)
        rw [List.append_nil] at same
        exact same.trans (cleared another other outcome found done)

end Workshop

/-- A disk on which the same stands everywhere as on another one, and holds what it held there. -/
structure Posix.Disk.Restored (before after : Disk) : Prop where
  nodes : ∀ path, after.node? path = before.node? path
  files : ∀ path id, before.node? path = some (.file id) → after.file? id = before.file? id

namespace Workshop

section Runs

variable {σ γ : Type} {site : Site} {workshop last : Workshop σ}

/-- Once all jobs are done and nothing is left of them, the disk is what it was. -/
theorem Cleared.restored
    (cleared : workshop.Cleared site)
    (orderly : workshop.Orderly site)
    (known : workshop.jobs = site.jobs)
    (finished : ∀ index < site.jobs.length, (workshop.outcome? index).isSome = true) :
    site.disk.Restored workshop.machine.disk where
  nodes path := by
    by_cases within : ∃ job ∈ site.jobs, Path.isWithin path (job.place site.base) = true
    · obtain ⟨job, member, isWithin⟩ := within
      obtain ⟨rest, rfl⟩ := Path.isWithin_iff.1 isWithin
      rw [site.sound.vacant_within (site.vacant job member)]
      refine orderly.sound.vacant_within ?_ rest
      obtain ⟨index, inside, isJob⟩ := List.getElem_of_mem member
      obtain ⟨outcome, isOutcome⟩ := Option.isSome_iff_exists.1 (finished index inside)
      obtain ⟨desk, found, ended⟩ := Option.bind_eq_some_iff.1 isOutcome
      have same : desk.compilation.job = job := by
        have seen : workshop.jobs[index]? = some desk.compilation.job := by
          rw [jobs, List.getElem?_map, found]
          rfl
        rw [known, List.getElem?_eq_getElem inside, isJob] at seen
        exact (Option.some.inj seen).symm
      rw [← same]
      unfold Desk.outcome? Compilation.outcome? at ended
      split at ended
      next stage =>
        exact cleared index desk _ found stage
      next =>
        cases ended
    · refine orderly.undisturbed.nodes path fun job member => ?_
      rw [← Bool.not_eq_true]
      exact fun isWithin => within ⟨job, member, isWithin⟩
  files path id found :=
    orderly.undisturbed.files id (site.sound.numbered path id found)

/-- What has come of a job is what has come of its twin. -/
theorem Mirrors.outcome?_eq
    {index : Nat}
    {solo : Workshop σ}
    (mirrors : workshop.Mirrors site index solo) :
    solo.outcome? 0 = workshop.outcome? index := by
  obtain ⟨desk, twin, found, only, alike⟩ := mirrors.alike
  unfold outcome? Desk.outcome? Compilation.outcome?
  rw [found, only]
  have stages := alike.stage
  simp only [List.getElem?_cons_zero, Option.bind_some]
  generalize desk.compilation.stage = here at stages
  generalize twin.compilation.stage = there at stages
  cases stages <;> rfl

/-- Nothing tells a job apart from its twin before anything is done. -/
theorem mirrors_begin
    (site : Site)
    {index : Nat}
    {job : Job}
    (isJob : site.jobs[index]? = some job) :
    (begin site.settings site.disk site.jobs : Workshop σ).Mirrors site index
      (begin site.settings site.disk [job]) where
  orderly := by
    refine orderly_begin site ?_ (List.pairwise_singleton _ _)
    intro other member
    rw [List.mem_singleton.1 member]
    exact List.mem_of_getElem? isJob
  alike := by
    refine ⟨Desk.begin site.settings job, Desk.begin site.settings job, ?_, rfl, .refl _ _ _⟩
    simp only [begin, List.getElem?_map, isJob, Option.map_some]

/-- A run in which jobs do not influence one another. Each of them comes to what it comes to when
it is done alone on the same disk, whatever else the system refuses it then and whatever its
compiler does, and the disk is what it was when all are done and the system has removed their
directories. -/
structure Isolated
    (site : Site)
    (child : Child σ γ)
    (turns : List (Turn γ))
    (last : Workshop σ) :
    Prop where
  alone : ∀ index job, site.jobs[index]? = some job →
    ∃ solo, (begin site.settings site.disk [job]).turns? child site.host
        (turns.filterMap (Turn.alone? index)) = some solo ∧
      solo.outcome? 0 = last.outcome? index
  restored : (∀ index < site.jobs.length, (last.outcome? index).isSome = true) →
    (∀ turn ∈ turns, turn.isSparing = false) → site.disk.Restored last.machine.disk

/-- Jobs do not influence one another, in whatever order their desks take turns, as long as nobody
speaks of the directory of another job. -/
theorem isolated_of_run
    {child : Child σ γ}
    {turns : List (Turn γ)}
    (secluded : site.Discreet)
    (discreet : Throughout child site.host (Discreet site)
      (begin site.settings site.disk site.jobs) turns)
    (run : (begin site.settings site.disk site.jobs).turns? child site.host turns = some last) :
    Isolated site child turns last := by
  have orderly : (begin site.settings site.disk site.jobs : Workshop σ).Orderly site :=
    orderly_begin site (fun _ member => member) site.distinct
  constructor
  · intro index job isJob
    obtain ⟨solo, alone, mirrors⟩ :=
      (mirrors_begin site isJob).turns orderly secluded discreet run
    exact ⟨solo, alone, mirrors.outcome?_eq⟩
  · intro finished removing
    have kept : last.Orderly site ∧ last.Cleared site ∧ last.jobs = site.jobs := by
      refine turns_induction (fun workshop : Workshop σ =>
        workshop.Orderly site ∧ workshop.Cleared site ∧ workshop.jobs = site.jobs)
          discreet ?_ ?_ run
      · rintro turn member before after stillDiscreet ⟨orderly, cleared, known⟩ taken
        exact ⟨orderly.turn secluded stillDiscreet taken,
          cleared.turn orderly secluded stillDiscreet (removing turn member) taken,
          (orderly.jobs_eq secluded stillDiscreet taken).trans known⟩
      · refine ⟨orderly, ?_, ?_⟩
        · intro index desk outcome found done
          simp only [begin, List.getElem?_map, Option.map_eq_some_iff] at found
          obtain ⟨job, _, rfl⟩ := found
          cases done
        · simp only [jobs, begin, List.map_map]
          exact List.map_id _
    obtain ⟨stillOrderly, cleared, known⟩ := kept
    exact cleared.restored stillOrderly known finished

/-- A workshop is discreet when no link on its disk speaks of a job. -/
theorem Discreet.of_entries
    (unspoken : ∀ entry ∈ workshop.machine.disk.entries, ∀ target, entry.2 = .link target →
      Path.Avoids site.names target) :
    workshop.Discreet site := by
  intro desk _ _ _ rest target found
  have entry := Disk.mem_entries_of_node? _ found nofun
  exact Site.avoids_others (unspoken _ entry target rfl) desk.compilation.job

end Runs

namespace Sample

open Call.Sample

/-- A host that looks for programs in two directories. -/
def host : Host :=
  ⟨[], [(pathVariable, bytes "/b:/")]⟩

/-- A script that is read by the compiler, and a link to where it is. -/
def scripted : Disk :=
  (disk.addFile [bytes "g"]
    { content := .bytes (bytes "#!/c\n"), mode := 0o755, modified := 0 }).2.insert [bytes "b"]
      (.link (bytes "."))

/-- Two jobs. -/
def pair : List Job :=
  [job, ⟨"77777777-8888-4999-8aaa-bbbbccccdddd", bytes "int main() { return 1; }"⟩]

/-- The disk is in order. -/
theorem sound_scripted : scripted.Sound := by
  have root := Disk.node?_root disk
  have vacant : disk.node? ([] ++ [bytes "g"]) = none := by
    rfl
  have script := Call.Sample.sound.addFile root vacant
    { content := .bytes (bytes "#!/c\n"), mode := 0o755, modified := 0 }
  exact script.insertLink (Disk.node?_root _) rfl (bytes ".")

/-- The directory to work in is there. -/
theorem enters_scripted :
    scripted.Enters host.directory settings.workDirectory [bytes "w"] :=
  ⟨1, rfl⟩

/-- A place to work in where nothing has been done, and two jobs for a compiler. -/
def siteFor (program : String) : Site where
  host
  settings := { settings with program }
  disk := scripted
  base := [bytes "w"]
  jobs := pair
  sound := sound_scripted
  enters := enters_scripted
  plain := by decide +kernel
  short := by decide +kernel
  vacant := by decide +kernel
  distinct := by decide +kernel

/-- A place to work in where the compiler is a script that is looked for. -/
def site : Site :=
  siteFor "g"

/-- Whether a node is no link, or a link that speaks of no job. -/
def isDiscreet : Node → Bool
  | .link target => Path.Avoids site.names target
  | _ => true

/-- Whether what a file holds is no script, or a script whose reader speaks of no job. -/
def isReadDiscreetly : Content → Bool
  | .bytes bytes =>
    (Launch.interpreter? bytes).all fun reader => Path.Avoids site.names reader.name
  | _ => true

/-- Nothing at the site speaks of a job. -/
theorem discreet_site : site.Discreet where
  called := by decide +kernel
  silent := by decide +kernel
  links path target found := by
    have all : ∀ entry ∈ site.disk.entries, isDiscreet entry.2 = true := by
      decide +kernel
    exact of_decide_eq_true (all _ (Disk.mem_entries_of_node? _ found nofun))
  readers path id file text reader _ isThere holds asks := by
    have all : ∀ entry ∈ site.disk.files, isReadDiscreetly entry.2.content = true := by
      decide +kernel
    have read := all _ (Disk.mem_files_of_file? _ isThere)
    simp only [isReadDiscreetly, holds, asks] at read
    exact of_decide_eq_true read

/-- A file with some notes, and an output that is a link. -/
def noted (text target : Bytes) : Tree where
  entries :=
    [([bytes "notes"], .file { content := .bytes text, mode := 0o644, modified := 0 }),
      ([Text.Utf8.encode Compilation.outputName], .link target)]
  named := by simp
  whole := by simp
  rooted path step item found := by
    obtain ⟨earlier, later, shape, _⟩ := List.lookup_eq_some_iff.1 found
    have isEntry : (path ++ [step], item) ∈ earlier ++ (path ++ [step], item) :: later :=
      List.mem_append_right _ List.mem_cons_self
    rw [← shape] at isEntry
    simp only [List.mem_cons, Prod.mk.injEq, List.not_mem_nil, or_false] at isEntry
    have short : (path ++ [step]).length = 1 := by
      rcases isEntry with ⟨same, _⟩ | ⟨same, _⟩ <;> rw [same] <;> rfl
    rw [List.length_append, List.length_singleton, Nat.add_eq_right] at short
    exact .inl (List.eq_nil_of_length_eq_zero short)

/-- The source that a compiler sees. -/
def sourceOf (view : View) : Bytes :=
  match view [Text.Utf8.encode Compilation.sourceName] with
  | some (.file file) => file.bytes
  | _ => []

/-- A compiler that writes the source to a file, lets its output be a link to the file, and ends. -/
def printer : Child (List Bytes) Unit where
  start arguments := arguments
  act arguments _ view _ := (arguments, noted (sourceOf view) (bytes "notes"), some (.code 0))

/-- Both jobs are done at the same time. -/
def turns : List (Turn Unit) :=
  [.desk 0 .step, .desk 1 .step, .desk 0 .step, .desk 0 .step, .desk 1 .step, .desk 0 .step,
    .desk 1 .step, .desk 1 .step, .desk 1 (.act ()), .wait 7, .desk 0 (.act ()), .desk 0 .step,
    .desk 1 .step, .desk 1 .step, .desk 0 .step, .desk 0 .step, .desk 1 .step]

/-- Whether no link on the disk of a workshop speaks of a job. -/
def isQuiet (workshop : Workshop (List Bytes)) : Bool :=
  workshop.machine.disk.entries.all fun entry => isDiscreet entry.2

/-- A workshop with the two jobs is discreet when no link on its disk speaks of a job. -/
theorem discreet_of_isQuiet
    {program : String}
    {workshop : Workshop (List Bytes)}
    (quiet : isQuiet workshop = true) :
    workshop.Discreet (siteFor program) := by
  refine .of_entries fun entry isThere target link => ?_
  have discreet := List.all_eq_true.1 quiet entry isThere
  rw [link] at discreet
  exact of_decide_eq_true discreet

/-- What can be checked for all beginnings of a run holds throughout. -/
theorem throughout_of_all
    {child : Child (List Bytes) Unit}
    {program : String}
    {turns : List (Turn Unit)}
    (quiet : turns.inits.all (fun early =>
      ((begin (siteFor program).settings scripted pair).turns? child host early).all isQuiet) =
        true) :
    Throughout child host (Discreet (siteFor program))
      (begin (siteFor program).settings scripted pair) turns := by
  intro early between isEarly run
  have reached := List.all_eq_true.1 quiet early ((List.mem_inits early turns).2 isEarly)
  rw [run] at reached
  exact discreet_of_isQuiet reached

end Sample

/-- Two jobs that are done at the same time, with a compiler that is looked for and read by another
program, and outputs that are links. Nothing is left of them. -/
theorem isolated_of_run_of_two :
    ∃ last,
      (begin Sample.site.settings Sample.site.disk Sample.site.jobs).turns? Sample.printer
          Sample.site.host Sample.turns = some last ∧
        last.outcome? 0 = some (.ok ⟨.succeeded, "int main() {}"⟩) ∧
        last.outcome? 1 = some (.ok ⟨.succeeded, "int main() { return 1; }"⟩) ∧
          Isolated Sample.site Sample.printer Sample.turns last ∧
            Sample.site.disk.Restored last.machine.disk := by
  have discreet : Throughout Sample.printer Sample.site.host (Discreet Sample.site)
      (begin Sample.site.settings Sample.site.disk Sample.site.jobs) Sample.turns :=
    Sample.throughout_of_all (by decide +kernel)
  have finished : ((begin Sample.site.settings Sample.site.disk Sample.site.jobs).turns?
      Sample.printer Sample.site.host Sample.turns).any (fun last =>
        last.outcome? 0 = some (.ok ⟨.succeeded, "int main() {}"⟩) ∧
        last.outcome? 1 = some (.ok ⟨.succeeded, "int main() { return 1; }"⟩)) = true := by
    decide +kernel
  cases run : (begin Sample.site.settings Sample.site.disk Sample.site.jobs).turns?
      Sample.printer Sample.site.host Sample.turns with
  | none =>
      rw [run] at finished
      cases finished
  | some last =>
      rw [run] at finished
      obtain ⟨one, two⟩ := of_decide_eq_true finished
      have isolated := isolated_of_run Sample.discreet_site discreet run
      refine ⟨last, rfl, one, two, isolated, isolated.restored ?_ (by decide +kernel)⟩
      intro index inside
      have isIndex : index = 0 ∨ index = 1 := by
        change index < 2 at inside
        omega
      rcases isIndex with rfl | rfl
      · rw [one]
        rfl
      · rw [two]
        rfl

namespace Sample

/-- The name of the source of the second job, from the directory of another one. -/
def spied : String :=
  "../77777777-8888-4999-8aaa-bbbbccccdddd/main.cpp"

/-- A compiler that lets its output be a link to a source of another job. -/
def spy : Child (List Bytes) Unit where
  start arguments := arguments
  act arguments _ view _ :=
    (arguments, noted (sourceOf view) (Text.Utf8.encode spied), some (.code 0))

/-- The first job is done while the source of the second one is there. -/
def spying : List (Turn Unit) :=
  [.desk 1 .step, .desk 1 .step, .desk 0 .step, .desk 0 .step, .desk 0 .step, .desk 0 .step,
    .desk 0 (.act ()), .desk 0 .step, .desk 0 .step, .desk 0 .step]

/-- A place to work in where the compiler is called by the name of a source. -/
def nosy : Site :=
  siteFor spied

/-- The compiler of the first job is to be started while the source of the second one is there. -/
def prying : List (Turn Unit) :=
  [.desk 1 .step, .desk 1 .step, .desk 0 .step, .desk 0 .step, .desk 0 .step, .desk 0 .step,
    .desk 0 .step]

/-- A run in which the first job comes to something else than it does alone. -/
theorem not_isolated_of_outcomes
    {program : String}
    {child : Child (List Bytes) Unit}
    {turns : List (Turn Unit)}
    {last : Workshop (List Bytes)}
    {outcome : Outcome}
    (alone : (((begin (siteFor program).settings scripted [Call.Sample.job]).turns? child host
      (turns.filterMap (Turn.alone? 0))).bind fun solo => solo.outcome? 0) = some outcome)
    (differs : last.outcome? 0 ≠ some outcome) :
    ¬Isolated (siteFor program) child turns last := by
  intro isolated
  obtain ⟨solo, run, same⟩ := isolated.alone 0 Call.Sample.job rfl
  obtain ⟨other, again, comes⟩ := Option.bind_eq_some_iff.1 alone
  cases run.symm.trans again
  exact differs (same.symm.trans comes)

end Sample

/-- A link that a compiler leaves as its output, and that speaks of another job, lets the one job be
told the source of the other, which it is not told alone. A compiler that is called by the name of
a source of another job is refused for another reason than alone. -/
theorem not_isolated_of_spy_of_nosy :
    (∃ last, Sample.site.Discreet ∧
      (begin Sample.site.settings Sample.site.disk Sample.site.jobs).turns? Sample.spy
        Sample.site.host Sample.spying = some last ∧
      last.outcome? 0 = some (.ok ⟨.succeeded, "int main() { return 1; }"⟩) ∧
      ¬Isolated Sample.site Sample.spy Sample.spying last) ∧
    ∃ last, Throughout Sample.printer Sample.nosy.host (Discreet Sample.nosy)
        (begin Sample.nosy.settings Sample.nosy.disk Sample.nosy.jobs) Sample.prying ∧
      (begin Sample.nosy.settings Sample.nosy.disk Sample.nosy.jobs).turns? Sample.printer
        Sample.nosy.host Sample.prying = some last ∧
      last.outcome? 0 = some (.error (.launch (.system .denied))) ∧
      ¬Isolated Sample.nosy Sample.printer Sample.prying last := by
  refine ⟨?_, ?_⟩
  · have told : (((begin Sample.site.settings Sample.site.disk Sample.site.jobs).turns? Sample.spy
        Sample.site.host Sample.spying).bind fun last => last.outcome? 0) =
          some (.ok ⟨.succeeded, "int main() { return 1; }"⟩) := by
      decide +kernel
    obtain ⟨last, run, outcome⟩ := Option.bind_eq_some_iff.1 told
    refine ⟨last, Sample.discreet_site, run, outcome, ?_⟩
    have alone : (((begin Sample.site.settings Sample.scripted [Call.Sample.job]).turns? Sample.spy
        Sample.host (Sample.spying.filterMap (Turn.alone? 0))).bind fun solo => solo.outcome? 0) =
          some (.error (.output (.system .notFound))) := by
      decide +kernel
    apply Sample.not_isolated_of_outcomes alone
    rw [outcome]
    decide
  · have told : (((begin Sample.nosy.settings Sample.nosy.disk Sample.nosy.jobs).turns?
        Sample.printer Sample.nosy.host Sample.prying).bind fun last => last.outcome? 0) =
          some (.error (.launch (.system .denied))) := by
      decide +kernel
    obtain ⟨last, run, outcome⟩ := Option.bind_eq_some_iff.1 told
    refine ⟨last, Sample.throughout_of_all (by decide +kernel), run, outcome, ?_⟩
    have alone : (((begin Sample.nosy.settings Sample.scripted [Call.Sample.job]).turns?
        Sample.printer Sample.host (Sample.prying.filterMap (Turn.alone? 0))).bind fun solo =>
          solo.outcome? 0) = some (.error (.launch (.system .notFound))) := by
      decide +kernel
    apply Sample.not_isolated_of_outcomes alone
    rw [outcome]
    decide

end Workshop

end CompilePlayground
