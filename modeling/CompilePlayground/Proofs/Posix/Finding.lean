import CompilePlayground.Proofs.Posix.Reading
import CompilePlayground.Proofs.Posix.Running

namespace CompilePlayground.Posix

/-!
# Programs beside the directories of others

Which program a name is run as, and whether a name can be opened, depends on nothing that stands in
directories that neither the name speaks of nor any link or script that it leads to.
-/

namespace Disk

variable {first second : Disk} {start base : Path} {start? : Option Path} {name : Bytes}
  {names : Bytes → Prop} {inside : Path → Prop}

/-- What is found under names that lead to the same place looks alike. -/
theorem SamePlace.find_cases
    (same : SamePlace inside first second (first.locate start? true name)
      (second.locate start? true name)) :
    (∃ error, first.find start? true name = .error error ∧
      second.find start? true name = .error error) ∨
    ∃ path one two, inside path ∧ first.item? path = some (first.itemOf one) ∧
      first.itemOf one = second.itemOf two ∧ first.find start? true name = .ok (path, one) ∧
        second.find start? true name = .ok (path, two) := by
  unfold find
  generalize first.locate start? true name = one at same
  generalize second.locate start? true name = two at same
  cases same with
  | vacant path =>
      exact .inl ⟨_, rfl, rfl⟩
  | error error =>
      exact .inl ⟨error, rfl, rfl⟩
  | existing within seen alike =>
      exact .inr ⟨_, _, _, within, seen, alike, rfl, rfl⟩

/-- Under names that lead to the same place the same may be run, or nothing for the same reason. -/
theorem SamePlace.executable_cases
    (same : SamePlace inside first second (first.locate start? true name)
      (second.locate start? true name)) :
    (∃ error, Launch.executable first start? name = .error error ∧
      Launch.executable second start? name = .error error) ∨
    ∃ path file one two, inside path ∧ first.item? path = some (.file file) ∧
      file.isExecutable = true ∧ Launch.executable first start? name = .ok (one, file) ∧
        Launch.executable second start? name = .ok (two, file) := by
  unfold Launch.executable
  rcases same.find_cases with
    ⟨error, findsOne, findsTwo⟩ | ⟨path, one, two, within, seen, alike, findsOne, findsTwo⟩
  · rw [findsOne, findsTwo]
    exact .inl ⟨error, rfl, rfl⟩
  · rw [findsOne, findsTwo]
    cases lookAlike_of_itemOf_eq alike with
    | directory | link =>
        exact .inl ⟨_, rfl, rfl⟩
    | @file id number sameFile =>
        simp only [sameFile]
        cases isThere : first.file? id with
        | none =>
            exact .inl ⟨_, rfl, rfl⟩
        | some file =>
            simp only
            split
            next runs =>
              refine .inr ⟨path, file, id, number, within, ?_, runs, rfl, rfl⟩
              rw [seen]
              simp only [itemOf, isThere]
            next =>
              exact .inl ⟨_, rfl, rfl⟩

/-- Scripts on a disk, beside some directories, name no reader that is in one of these. -/
def ReadBeside (base : Path) (names : Bytes → Prop) (disk : Disk) : Prop :=
  ∀ path file bytes reader, Path.IsBeside base names path →
    disk.item? path = some (.file file) → file.isExecutable = true →
      file.content = .bytes bytes → Launch.interpreter? bytes = some reader →
        Path.Avoids names reader.name

namespace AlikeBeside

/-- A name is run as the same program, be it through scripts, on two disks where all looks alike but
what stands in directories that nobody speaks of. -/
theorem programWithin_eq
    (alike : AlikeBeside base names first second)
    (read : first.ReadBeside base names)
    (beside : Path.IsBeside base names start)
    (depth : Nat)
    (invocation : Invocation)
    (avoids : Path.Avoids names name) :
    Launch.programWithin first (some start) depth name invocation =
      Launch.programWithin second (some start) depth name invocation := by
  induction depth generalizing name invocation with
  | zero =>
      rfl
  | succ depth inductionHypothesis =>
      unfold Launch.programWithin
      rcases (alike.samePlace_locate beside avoids).executable_cases with
        ⟨error, one, two⟩ | ⟨path, file, _, _, within, seen, runs, one, two⟩
      · rw [one, two]
      · rw [one, two]
        simp only
        cases content : file.content with
        | program start | void =>
            rfl
        | bytes bytes =>
            simp only
            cases reader? : Launch.interpreter? bytes with
            | none =>
                rfl
            | some reader =>
                simp only
                split
                · rfl
                · exact inductionHypothesis _
                    (read path file bytes reader within seen runs content reader?)

/-- The same program is found under a program's name on two disks where all looks alike but what
stands in directories that nobody speaks of. -/
theorem find_eq
    {searchPath : Bytes}
    (alike : AlikeBeside base names first second)
    (read : first.ReadBeside base names)
    (beside : Path.IsBeside base names start)
    (avoids : ∀ candidate ∈ Launch.candidates searchPath name, Path.Avoids names candidate)
    (invocation : Invocation) :
    Launch.find first (some start) searchPath name invocation =
      Launch.find second (some start) searchPath name invocation :=
  Launch.search_congr fun candidate tried =>
    alike.programWithin_eq read beside Launch.scriptLimit invocation (avoids candidate tried)

end AlikeBeside

end Disk

namespace Machine

/-- Under names that lead to the same place a file can be opened on both of two machines, or on
neither for the same reason. -/
theorem openName_read_cases
    {first second : Machine}
    {start? : Option Path}
    {name : Bytes}
    {inside : Path → Prop}
    (same : Disk.SamePlace inside first.disk second.disk (first.disk.locate start? true name)
      (second.disk.locate start? true name)) :
    (∃ error, first.openName start? name .read = .error error ∧
      second.openName start? name .read = .error error) ∨
    ∃ one two, first.openName start? name .read = .ok one ∧
      second.openName start? name .read = .ok two := by
  unfold openName
  rcases same.find_cases with
    ⟨error, findsOne, findsTwo⟩ | ⟨path, one, two, _, _, alike, findsOne, findsTwo⟩
  · rw [findsOne, findsTwo]
    exact .inl ⟨error, rfl, rfl⟩
  · rw [findsOne, findsTwo]
    cases Disk.lookAlike_of_itemOf_eq alike with
    | directory | file =>
        exact .inr ⟨_, _, rfl, rfl⟩
    | link target =>
        exact .inl ⟨_, rfl, rfl⟩

end Machine

end CompilePlayground.Posix
