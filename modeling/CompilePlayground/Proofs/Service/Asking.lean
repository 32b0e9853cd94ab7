import CompilePlayground.Compilation
import CompilePlayground.Proofs.Posix.Running
import CompilePlayground.Service.Version

namespace CompilePlayground

open Posix

/-!
# The compiler that is asked and the compiler that compiles

The compiler is asked for its version from the directory of the host, and it compiles from the
directory of the job. Both are the same as long as the name of the compiler does not depend on a
directory. A name with a slash that does not begin at the root does.
-/

namespace Compilation

/-- How the compiler that compiles in a directory is to the one that is asked for its version. -/
structure Asked
    (host : Host)
    (compilation : Compilation)
    (machine : Machine)
    (directory : Path) :
    Prop where
  /-- What compiles is what would be asked from the directory of the job. -/
  own : ∀ output outputEnd errorsEnd,
    machine.fileRun host (compilation.command output) =
      machine.fileRun { host with directory }
        (Version.command compilation.settings.program outputEnd errorsEnd)
  /-- It is what is asked, or there is neither, if the name of the compiler begins at the root or
  is looked for on a path of names that do. -/
  same : Launch.ReadersAbsolute machine.disk →
    (∀ part ∈ Launch.directories host.searchPath, Path.isAbsolute part = true) →
      (Path.isAbsolute (Text.Utf8.encode compilation.settings.program) = true ∨
        (Text.Utf8.encode compilation.settings.program).contains slash = false) →
        ∀ output outputEnd errorsEnd,
          machine.fileRun host (compilation.command output) =
            machine.fileRun host
              (Version.command compilation.settings.program outputEnd errorsEnd)

section Found

variable {host : Host} {compilation : Compilation} {machine : Machine} {directory : Path}

/-- What compiles is looked for from the directory of the job. -/
theorem fileRun_command
    {id : Nat}
    (entered : machine.disk.find (some host.directory) true compilation.directory =
      .ok (directory, .directory id))
    (output : Nat) :
    machine.fileRun host (compilation.command output) =
      Launch.fileRun machine.disk (some directory) host.searchPath
        (Text.Utf8.encode compilation.settings.program) := by
  unfold Machine.fileRun Machine.directoryOf
  simp only [command, entered]

/-- Where a job has its directory, the compiler that compiles is to the one that is asked as its
name says. -/
theorem asked_of_find
    {id : Nat}
    (entered : machine.disk.find (some host.directory) true compilation.directory =
      .ok (directory, .directory id)) :
    Asked host compilation machine directory where
  own output _ _ := fileRun_command entered output
  same readers searched named output _ _ :=
    (fileRun_command entered output).trans (Launch.fileRun_congr readers searched named)

end Found

namespace Sample

/-- The bytes of a text. -/
def bytes (text : String) : Bytes :=
  Text.Utf8.encode text

/-- A compiler that has nothing to say. -/
def compiler : File :=
  { content := .program fun _ => .exit 0, mode := 0o755, modified := 0 }

/-- A disk with a compiler for all, another one in the directory of the service, and the directory
of a job. -/
def disk : Disk :=
  let bare := [[bytes "b"], [bytes "s"], [bytes "w"], [bytes "w", bytes "j"]].foldl
    Disk.addDirectory Disk.empty
  let shared := (bare.addFile [bytes "b", bytes "cc"] compiler).2
  (shared.addFile [bytes "s", bytes "cc"] compiler).2

/-- A service in a directory of its own. -/
def host : Host :=
  ⟨[bytes "s"], [(bytes "PATH", bytes "/b")]⟩

/-- A job for a compiler of some name. -/
def compilation (program : String) : Compilation :=
  .begin ⟨program, [], bytes "/w", .ofSeconds 1⟩ ⟨"j", []⟩

theorem readersAbsolute : Launch.ReadersAbsolute disk := by
  intro id file bytes reader found holds _
  have program : ∀ entry ∈ disk.files, entry.2 = compiler := by
    intro entry member
    simp only [disk, Disk.addFile, List.mem_cons] at member
    rcases member with rfl | rfl | none
    · rfl
    · rfl
    · cases none
  obtain ⟨before, after, shape, _⟩ := List.lookup_eq_some_iff.1 found
  have same := program (id, file) (by rw [shape]; simp)
  rw [show file = compiler from same] at holds
  cases holds

end Sample

/-- A compiler that is looked for on the search path is asked and compiles. -/
theorem asked_of_find_of_searched :
    Asked Sample.host (Sample.compilation "cc") (.ofDisk Sample.disk)
        [Sample.bytes "w", Sample.bytes "j"] ∧
      Launch.ReadersAbsolute Sample.disk ∧
      ((Machine.ofDisk Sample.disk).fileRun Sample.host
        ((Sample.compilation "cc").command 0)).toOption = some 5 :=
  ⟨@asked_of_find _ _ _ _ 4 (by rfl), Sample.readersAbsolute, by decide +kernel⟩

/-- A name with a slash that does not begin at the root leads to a compiler that can be asked, and
to none that compiles. -/
theorem not_fileRun_eq :
    ¬∀ (host : Host) (compilation : Compilation) (machine : Machine) (directory : Path)
      (id output outputEnd errorsEnd : Nat),
        (∀ part ∈ Launch.directories host.searchPath, Path.isAbsolute part = true) →
          machine.disk.find (some host.directory) true compilation.directory =
            .ok (directory, .directory id) →
            machine.fileRun host (compilation.command output) =
              machine.fileRun host
                (Version.command compilation.settings.program outputEnd errorsEnd) := by
  intro same
  have one := same Sample.host (Sample.compilation "./cc") (.ofDisk Sample.disk)
    [Sample.bytes "w", Sample.bytes "j"] 4 0 0 0 (by decide +kernel) (by rfl)
  have asked : ((Machine.ofDisk Sample.disk).fileRun Sample.host
      (Version.command (Sample.compilation "./cc").settings.program 0 0)).toOption = some 6 := by
    decide +kernel
  have compiles : ((Machine.ofDisk Sample.disk).fileRun Sample.host
      ((Sample.compilation "./cc").command 0)).toOption = none := by
    decide +kernel
  rw [one, asked] at compiles
  cases compiles

end Compilation

end CompilePlayground
