import CompilePlayground.Proofs.Compilation.Standing
import CompilePlayground.Proofs.Posix.Finding

namespace CompilePlayground

open Posix

/-!
# Whether the compiler can be started

Two machines on which one job is done alike look alike wherever nobody speaks of the directories of
other jobs. A compiler is therefore started for the job on both, or refused on both for the same
reason, and its output reads the same.
-/

namespace Text.Utf8

/-- Different texts are written with different bytes. -/
theorem encode_injective
    {first second : String}
    (same : encode first = encode second) :
    first = second := by
  unfold encode at same
  rw [Array.toList_inj] at same
  exact String.toByteArray_inj.1 (ByteArray.ext same)

end Text.Utf8

/-- Nothing stands within the directories of two jobs with different names. -/
theorem Job.isWithin_place
    {base rest : Path}
    {one other : Job}
    (differs : one.id ≠ other.id) :
    Path.isWithin (one.place base ++ rest) (other.place base) = false := by
  rw [← Bool.not_eq_true, Path.isWithin_iff]
  rintro ⟨more, same⟩
  unfold place at same
  rw [List.append_assoc, List.append_assoc, List.append_cancel_left_eq] at same
  exact differs (Text.Utf8.encode_injective (List.cons.inj same).1)

namespace Site

variable {site : Site} {job : Job} {path : Path}

/-- What stands in the directory of a job is beside the directories of the others. -/
theorem isBeside_place
    (site : Site)
    (job : Job)
    (rest : Path) :
    Path.IsBeside site.base (site.others job) (job.place site.base ++ rest) := by
  rintro _ ⟨other, _, differs, rfl⟩
  exact Job.isWithin_place (Ne.symm differs)

/-- What is beside the directories of the others, and not in the directory of the one job, is in no
directory of a job. -/
theorem outside_of_isBeside
    (beside : Path.IsBeside site.base (site.others job) path)
    (outside : Path.isWithin path (job.place site.base) = false)
    (other : Job)
    (member : other ∈ site.jobs) :
    Path.isWithin path (other.place site.base) = false := by
  by_cases same : other.id = job.id
  · have place : other.place site.base = job.place site.base := by
      unfold Job.place
      rw [same]
    rw [place]
    exact outside
  · exact beside _ ⟨other, member, same, rfl⟩

/-- A name that speaks of no job speaks of no other job. -/
theorem avoids_others
    {name : Bytes}
    (avoids : Path.Avoids site.names name)
    (job : Job) :
    Path.Avoids (site.others job) name := by
  rintro step isStep ⟨other, member, _, same⟩
  exact avoids step isStep ⟨other, member, same⟩

end Site

/-- Outside of the directories of jobs all looks as it did. -/
theorem Undisturbed.item?_eq
    {base path : Path}
    {jobs : List Job}
    {before after : Disk}
    (undisturbed : Undisturbed base jobs before after)
    (sound : before.Sound)
    (outside : ∀ job ∈ jobs, Path.isWithin path (job.place base) = false) :
    after.item? path = before.item? path := by
  unfold Disk.item?
  rw [undisturbed.nodes path outside]
  cases found : before.node? path with
  | none =>
      rfl
  | some node =>
      cases node with
      | directory | link =>
          rfl
      | file id =>
          simp only [Option.map_some, Disk.itemOf,
            undisturbed.files id (sound.numbered path id found)]

namespace Desk

variable {σ γ : Type} {site : Site} {first second : Machine} {one two : Desk σ}

/-- Two machines on which one job is done alike look alike beside the directories of other jobs. -/
theorem Alike.alikeBeside
    (alike : Alike site.base first one second two)
    (standOne : one.Standing site first)
    (standTwo : two.Standing site second)
    (discreet : site.Discreet)
    (unspoken : one.Discreet site first) :
    Disk.AlikeBeside site.base (site.others one.compilation.job) first.disk second.disk where
  items path beside := by
    cases within : Path.isWithin path (one.place site.base) with
    | true =>
        obtain ⟨rest, rfl⟩ := Path.isWithin_iff.1 within
        exact congrFun alike.view rest
    | false =>
        have outside := Site.outside_of_isBeside beside within
        rw [standOne.undisturbed.item?_eq site.sound outside,
          standTwo.undisturbed.item?_eq site.sound outside]
  links path target beside seen := by
    cases within : Path.isWithin path (one.place site.base) with
    | true =>
        obtain ⟨rest, rfl⟩ := Path.isWithin_iff.1 within
        exact unspoken rest target (Disk.item?_eq_link.1 seen)
    | false =>
        rw [standOne.undisturbed.item?_eq site.sound
          (Site.outside_of_isBeside beside within)] at seen
        exact Site.avoids_others (discreet.links path target (Disk.item?_eq_link.1 seen)) _

/-- No script beside the directories of other jobs names a reader there, before a compiler has been
in the directory of the job. -/
theorem Standing.readBeside
    (standing : one.Standing site first)
    (discreet : site.Discreet)
    (tame : one.Tame site.base first) :
    first.disk.ReadBeside site.base (site.others one.compilation.job) := by
  intro path file bytes reader beside seen runs content asks
  cases within : Path.isWithin path (one.place site.base) with
  | true =>
      obtain ⟨rest, rfl⟩ := Path.isWithin_iff.1 within
      rw [tame.inert rest file seen] at runs
      cases runs
  | false =>
      rw [standing.undisturbed.item?_eq site.sound
        (Site.outside_of_isBeside beside within)] at seen
      obtain ⟨id, found, isThere⟩ := Disk.item?_eq_file.1 seen
      exact Site.avoids_others (discreet.readers path id file bytes reader found isThere content
        asks) _

/-- No link speaks of another job before a compiler has been in the directory of the job. -/
theorem Tame.discreet
    (tame : one.Tame site.base first) :
    one.Discreet site first := by
  intro rest target found
  exact absurd (Disk.item?_eq_link.2 found) (tame.unlinked rest target)

end Desk

/-- A command is refused alike on two machines where its directory, its program and the device that
it is to read from are found alike. -/
theorem Posix.Machine.refusal?_spawn_congr
    {first second : Machine}
    {host : Host}
    {one two : Command}
    (program : one.program = two.program)
    (arguments : one.arguments = two.arguments)
    (named : one.directory? = two.directory?)
    (entered : first.directoryOf host one = second.directoryOf host two)
    (found : ∀ directory invocation, first.directoryOf host one = .ok directory →
      Launch.find first.disk (some directory) host.searchPath one.program invocation =
        Launch.find second.disk (some directory) host.searchPath one.program invocation)
    (opens : (∃ error, first.openName (some []) voidDevice .read = .error error ∧
        second.openName (some []) voidDevice .read = .error error) ∨
      ∃ one two, first.openName (some []) voidDevice .read = .ok one ∧
        second.openName (some []) voidDevice .read = .ok two) :
    refusal? (first.spawn host one) = refusal? (second.spawn host two) := by
  have whole : holdsZero two = holdsZero one := by
    unfold holdsZero
    rw [program, arguments, named]
  unfold spawn
  rw [whole, ← entered, ← program, ← arguments]
  split
  · rfl
  · cases enters : first.directoryOf host one with
    | error error =>
        rfl
    | ok directory =>
        simp only [bind, Except.bind, found directory _ enters]
        cases Launch.find second.disk (some directory) host.searchPath one.program
            ⟨one.program :: one.arguments, host.environment⟩ with
        | error error =>
            rfl
        | ok program =>
            rcases opens with ⟨error, opensOne, opensTwo⟩ | ⟨_, _, opensOne, opensTwo⟩
            · rw [opensOne, opensTwo]
            · rw [opensOne, opensTwo]
              rfl

namespace Desk

variable {σ γ : Type} {site : Site} {first second : Machine} {one two : Desk σ}

/-- Whether the compiler of a job can be started, and what refuses it, depends on nothing that
stands in the directories of other jobs. -/
theorem Alike.refusal?_spawn_eq
    {outputOne outputTwo : Nat}
    (alike : Alike site.base first one second two)
    (standOne : one.Standing site first)
    (standTwo : two.Standing site second)
    (discreet : site.Discreet)
    (stageOne : one.compilation.stage = .launch outputOne)
    (stageTwo : two.compilation.stage = .launch outputTwo) :
    refusal? (first.spawn site.host (one.compilation.command outputOne)) =
      refusal? (second.spawn site.host (two.compilation.command outputTwo)) := by
  obtain ⟨madeOne, tame⟩ := standOne.ready stageOne
  obtain ⟨madeTwo, _⟩ := standTwo.ready stageTwo
  have beside := alike.alikeBeside standOne standTwo discreet tame.discreet
  have here := site.isBeside_place one.compilation.job []
  rw [List.append_nil] at here
  have place : two.place site.base = one.place site.base := by
    unfold place
    rw [alike.job]
  have directory : one.compilation.directory = two.compilation.directory := by
    unfold Compilation.directory
    rw [alike.settings, alike.job]
  have entersOne : first.directoryOf site.host (one.compilation.command outputOne) =
      .ok (one.place site.base) := by
    obtain ⟨_, found⟩ := (standOne.leads madeOne).find_eq madeOne.usable true
    unfold Machine.directoryOf Compilation.command
    simp only [found]
  have entersTwo : second.directoryOf site.host (two.compilation.command outputTwo) =
      .ok (one.place site.base) := by
    obtain ⟨_, found⟩ := (standTwo.leads madeTwo).find_eq madeTwo.usable true
    unfold Machine.directoryOf Compilation.command
    simp only [found, place]
  apply Machine.refusal?_spawn_congr
  · unfold Compilation.command
    rw [alike.settings]
  · unfold Compilation.command
    rw [alike.settings]
  · unfold Compilation.command
    rw [directory]
  · rw [entersOne, entersTwo]
  · intro place invocation entered
    rw [entersOne] at entered
    cases entered
    refine beside.find_eq (standOne.readBeside discreet tame) here ?_ invocation
    unfold Compilation.command
    rw [standOne.settings]
    exact fun candidate tried => Site.avoids_others (discreet.called candidate tried) _
  · exact Machine.openName_read_cases
      (beside.samePlace_locate (.nil _ _) (Site.avoids_others discreet.silent _))

/-- What is read as the output of a job depends on nothing that stands in the directories of other
jobs, as long as no link in the directory of the job speaks of them. -/
theorem Alike.fileBytes_output_eq
    (alike : Alike site.base first one second two)
    (standOne : one.Standing site first)
    (standTwo : two.Standing site second)
    (discreet : site.Discreet)
    (unspoken : one.Discreet site first)
    (madeOne : one.Made site.base first) :
    second.fileBytes site.host (two.compilation.fileName Compilation.outputName) =
      first.fileBytes site.host (one.compilation.fileName Compilation.outputName) := by
  have directory : two.compilation.directory = one.compilation.directory := by
    unfold Compilation.directory
    rw [alike.settings, alike.job]
  have read := site.enters.read_leaf_eq (site.plain _ standOne.job) (site.short _ standOne.job)
    Compilation.isPlain_outputName standOne.kept standTwo.kept madeOne.directory
    (alike.alikeBeside standOne standTwo discreet unspoken)
    (site.isBeside_place one.compilation.job)
  unfold Machine.fileBytes Machine.withName Compilation.fileName
  rw [directory, standOne.directory_eq]
  simp only [read]

end Desk

end CompilePlayground
