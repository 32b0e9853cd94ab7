import CompilePlayground.Proofs.Compilation.Preparing

namespace CompilePlayground

open Posix

/-!
# What is there when the compiler is started

On a disk that is in order, and that has no links and no devices below the directory of a job, what
a call prepares is there at the moment its compiler is started, whatever the directory held before:
the source is the one of the job, the output is empty, and the compiler writes to it through one
open file.
-/

namespace Compilation

/-- A disk in order, without links and without devices below the directory that a name leads to,
wherever that is once it is made. -/
structure Admits (host : Host) (name : Bytes) (disk : Disk) : Prop where
  sound : disk.Sound
  charted : disk.Charted
  ordinary : ∀ made home, disk.createDirectories (some host.directory) name = .ok made →
    made.Enters host.directory name home → disk.Ordinary home

/-- A disk on which a name leads to a directory without links and devices below. -/
structure Lodged (host : Host) (name : Bytes) (disk : Disk) (home : Path) : Prop where
  sound : disk.Sound
  charted : disk.Charted
  ordinary : disk.Ordinary home
  enters : disk.Enters host.directory name home

/-- Where the source of a job is in its directory. -/
def sourcePath (home : Path) : Path :=
  home ++ [Text.Utf8.encode sourceName]

/-- Where the output of a job is in its directory. -/
def outputPath (home : Path) : Path :=
  home ++ [Text.Utf8.encode outputName]

/-- A disk on which a source stands in the directory that a name leads to. -/
structure Sourced (host : Host) (name source : Bytes) (disk : Disk) (home : Path) : Prop
    extends Lodged host name disk home where
  holds : disk.Holds (sourcePath home) source
  allows : Machine.Allows (Path.join name (Text.Utf8.encode sourceName))

/-- A machine on which all is prepared for a compiler, with the output open as one file where it
begins. -/
structure Opened
    (host : Host)
    (name source : Bytes)
    (machine : Machine)
    (home : Path)
    (output file : Nat) :
    Prop
    extends Sourced host name source machine.disk home where
  names : machine.disk.node? (outputPath home) = some (.file file)
  mayName : Machine.Allows (Path.join name (Text.Utf8.encode outputName))
  records : machine.Records output file []

theorem short_sourceName : (Text.Utf8.encode sourceName).length ≤ Path.stepLimit := by
  decide

theorem short_outputName : (Text.Utf8.encode outputName).length ≤ Path.stepLimit := by
  decide

theorem sourceName_ne_outputName : [Text.Utf8.encode sourceName] ≠ [Text.Utf8.encode outputName] := by
  decide

section Preparations

variable {host : Host} {machine next : Machine} {disk after : Disk} {name source : Bytes}
  {home : Path}

/-- A directory is there once it was made. -/
theorem Admits.lodged
    (admits : Admits host name disk)
    (named : name ≠ [])
    (made : disk.createDirectories (some host.directory) name = .ok after) :
    ∃ home, Lodged host name after home := by
  obtain ⟨roomier, home, enters⟩ :=
    Disk.enters_of_createDirectories admits.sound admits.charted named made
  have ordinary := roomier.ordinary (admits.ordinary after home made enters)
  exact ⟨home, roomier.sound, roomier.charted, ordinary, enters⟩

/-- A directory stays where it is when a file is filled in it. -/
theorem Lodged.fills
    {child : Bytes}
    {id : Nat}
    {contents : Content → Prop}
    (lodged : Lodged host name disk home)
    (fills : Disk.Fills (home ++ [child]) id contents disk after)
    (solid : ¬contents .void) :
    Lodged host name after home where
  sound := fills.sound
  charted := fills.charted
  ordinary := fills.ordinary solid lodged.sound lodged.ordinary
  enters := lodged.enters.of_kept fills.kept

/-- A source stands in its directory once it was written. -/
theorem Lodged.sourced
    (lodged : Lodged host name machine.disk home)
    (filled : machine.fillFile host (Path.join name (Text.Utf8.encode sourceName)) source =
      .ok next) :
    Sourced host name source next.disk home := by
  obtain ⟨allows, id, disk, fills, rfl⟩ := Machine.fills_of_fillFile lodged.enters lodged.sound
    lodged.charted lodged.ordinary isPlain_sourceName short_sourceName filled
  obtain ⟨file, isThere, holds⟩ := fills.holds
  exact
    { toLodged := lodged.fills fills nofun
      holds := ⟨id, file, fills.node, isThere, holds⟩
      allows }

/-- All is prepared once the output was opened as well. -/
theorem Sourced.opened
    {output : Nat}
    (sourced : Sourced host name source machine.disk home)
    (opens : machine.openEmptied host (Path.join name (Text.Utf8.encode outputName)) =
      .ok (output, next)) :
    ∃ file, Opened host name source next home output file := by
  obtain ⟨mayName, id, disk, fills, same⟩ := Machine.fills_of_openEmptied sourced.enters
    sourced.sound sourced.charted sourced.ordinary isPlain_outputName short_outputName opens
  obtain ⟨rfl, rfl⟩ := Prod.mk.inj same
  refine ⟨id, ?_⟩
  exact
    { toLodged := sourced.toLodged.fills fills nofun
      holds := fills.holds_of_ne sourced.sound sourced.ordinary.toLinkless
        sourceName_ne_outputName sourced.holds
      allows := sourced.allows
      names := fills.node
      mayName
      records :=
        { holds := fills.holds
          opened := List.lookup_cons_self
          known := fills.sound.numbered _ _ fills.node
          given := Nat.lt_succ_self _ } }

end Preparations

end Compilation

namespace Call

variable {host : Host} {first call next : Call} {history : List Moment} {move : Move}

end Call

namespace Compilation

/-- What is there for the compiler of a job when it is started as a process: the source by its name,
an output that is empty, one open file behind both of its descriptors, and its directory, in which
it reads the source. -/
structure Finds
    (host : Host)
    (compilation : Compilation)
    (machine : Machine)
    (process output file : Nat) :
    Prop where
  source : machine.fileBytes host (compilation.fileName sourceName) = .ok compilation.job.source
  named : ∃ path, machine.disk.find (some host.directory) true
    (compilation.fileName outputName) = .ok (path, .file file)
  empty : ∃ found, machine.disk.file? file = some found ∧ found.content = .bytes []
  opened : machine.openFile? output = some ⟨.file file, 0, .truncate⟩
  child : ∃ child ∈ machine.processes, child.id = process ∧
    child.openFile? 1 = some output ∧ child.openFile? 2 = some output ∧
      ∃ home id, machine.disk.find (some host.directory) true compilation.directory =
        .ok (home, .directory id) ∧ machine.start? child = some home ∧
          machine.disk.read (some home) (Text.Utf8.encode sourceName) =
            .ok compilation.job.source

/-- What the compiler finds does not depend on the stage of its job. -/
theorem Finds.congr
    {host : Host}
    {compilation other : Compilation}
    {machine : Machine}
    {process output file : Nat}
    (finds : compilation.Finds host machine process output file)
    (settings : other.settings = compilation.settings)
    (job : other.job = compilation.job) :
    other.Finds host machine process output file := by
  obtain ⟨_, _, stage⟩ := other
  cases settings
  cases job
  exact ⟨finds.source, finds.named, finds.empty, finds.opened, finds.child⟩

/-- A compiler that is started when all is prepared finds it, and its output holds nothing yet. -/
theorem Opened.finds
    {host : Host}
    {compilation : Compilation}
    {machine next : Machine}
    {home : Path}
    {process output file : Nat}
    (opened : Opened host compilation.directory compilation.job.source machine home output file)
    (starts : machine.spawn host (compilation.command output) = .ok (process, next)) :
    compilation.Finds host next process output file ∧ next.Records output file [] := by
  obtain ⟨entrance, stream, child, entered, rfl, own, launched⟩ :=
    Machine.launched_of_spawn starts
  have keeps : Machine.Keeps output file machine
      { (machine.addOpenFile stream .read).2 with
        processes := machine.processes ++ [child], fresh := machine.fresh + 2 } :=
    (Machine.Keeps.addOpenFile machine opened.records.given stream .read).trans
      (.of_same rfl rfl (Nat.le_succ _))
  have records := opened.records.keeps keeps
  obtain ⟨id, found⟩ := Machine.find_of_directoryOf rfl entered
  have same := (Disk.enters_of_find found).eq opened.enters
  subst same
  obtain ⟨number, stands⟩ := opened.enters.node?_eq
  have begins : machine.disk.directoryPath? child.directory = some home := by
    rw [launched.directory, Machine.directoryId, stands]
    exact opened.charted.found _ _ stands
  obtain ⟨id, file, isSource, isThere, holds⟩ := opened.holds
  have below := Disk.find_of_isPlain ⟨number, stands⟩ isPlain_sourceName short_sourceName isSource
    nofun
  have named := opened.enters.find_join isPlain_sourceName short_sourceName opened.allows.2
    isSource nofun
  refine ⟨?_, records⟩
  exact
    { source := Machine.fileBytes_eq opened.allows named isThere holds
      named := ⟨_, opened.enters.find_join isPlain_outputName short_outputName opened.mayName.2
        opened.names nofun⟩
      empty := records.holds
      opened := records.opened
      child := ⟨child, by simp, own, launched.output, launched.errors, home, _, found, begins,
        Disk.read_of_find below isThere holds⟩ }

end Compilation

end CompilePlayground
