import CompilePlayground.Posix.Disk
import Mathlib.Data.List.Basic

namespace CompilePlayground.Posix

/-!
# What stands where after a change

Each change of a disk is described by what can be looked up afterwards: what stands at every
path, and what every file holds. A disk is `Sound` when whatever stands on it stands in a
directory, and when no file has a number that is still to be given.
-/

namespace Path

/-- A path stands within another when it goes on from there. -/
theorem isWithin_iff {path ancestor : Path} :
    isWithin path ancestor = true ↔ ∃ rest, path = ancestor ++ rest := by
  unfold isWithin
  rw [List.isPrefixOf_iff_prefix]
  constructor
  · rintro ⟨rest, rfl⟩
    exact ⟨rest, rfl⟩
  · rintro ⟨rest, rfl⟩
    exact ⟨rest, rfl⟩

@[simp] theorem isWithin_append (place rest : Path) : isWithin (place ++ rest) place = true :=
  isWithin_iff.2 ⟨rest, rfl⟩

/-- Only the root stands at the root. -/
theorem isWithin_nil_of_ne
    {place : Path}
    (named : place ≠ []) :
    isWithin [] place = false := by
  cases place with
  | nil =>
      exact absurd rfl named
  | cons step rest =>
      rfl

/-- What stands below a child of a place stands below the place. -/
theorem isWithin_trans
    {path place ancestor : Path}
    (inner : isWithin path place = true)
    (outer : isWithin place ancestor = true) :
    isWithin path ancestor = true := by
  obtain ⟨rest, rfl⟩ := isWithin_iff.1 inner
  obtain ⟨more, rfl⟩ := isWithin_iff.1 outer
  rw [List.append_assoc]
  exact isWithin_append _ _

/-- What is in a directory stands within a place when it is the place, or when the directory stands
within it. -/
theorem isWithin_snoc
    {path place : Path}
    {step : Bytes}
    (below : isWithin (path ++ [step]) place = true) :
    path ++ [step] = place ∨ isWithin path place = true := by
  obtain ⟨rest, shape⟩ := isWithin_iff.1 below
  rcases List.eq_nil_or_concat rest with rfl | ⟨front, last, rfl⟩
  · exact .inl (by simpa using shape)
  · rw [List.concat_eq_append, ← List.append_assoc] at shape
    obtain ⟨rfl, _⟩ := List.append_inj' shape rfl
    exact .inr (isWithin_append place front)

end Path

namespace Disk

/-- Looking up a key among entries of which some were taken away by their keys. -/
private theorem lookup_filter
    {α β : Type}
    [BEq α]
    [LawfulBEq α]
    (keeps : α → Bool)
    (entries : List (α × β))
    (key : α) :
    (entries.filter fun entry => keeps entry.1).lookup key =
      if keeps key then entries.lookup key else none := by
  induction entries with
  | nil =>
      simp
  | cons entry rest inductionHypothesis =>
      obtain ⟨other, value⟩ := entry
      by_cases same : key = other
      · subst same
        by_cases kept : keeps key = true
        · simp [kept]
        · simp [kept, inductionHypothesis]
      · have apart : (key == other) = false := beq_false_of_ne same
        by_cases kept : keeps other = true
        · simp [kept, List.lookup_cons, apart, inductionHypothesis]
        · simp [kept, List.lookup_cons, apart, inductionHypothesis]

variable (disk : Disk)

@[simp] theorem node?_root : disk.node? [] = some (.directory rootId) :=
  rfl

/-- What stands at a path, other than the root itself, is among the entries. -/
theorem mem_entries_of_node?
    {path : Path}
    {node : Node}
    (found : disk.node? path = some node)
    (apart : node ≠ .directory rootId) :
    (path, node) ∈ disk.entries := by
  unfold node? at found
  split at found
  · exact absurd (Option.some.inj found).symm apart
  · obtain ⟨earlier, later, shape, _⟩ := List.lookup_eq_some_iff.1 found
    rw [shape]
    exact List.mem_append_right _ List.mem_cons_self

/-- A file with a number is among the files. -/
theorem mem_files_of_file?
    {id : Nat}
    {file : File}
    (found : disk.file? id = some file) :
    (id, file) ∈ disk.files := by
  obtain ⟨earlier, later, shape, _⟩ := List.lookup_eq_some_iff.1 found
  rw [shape]
  exact List.mem_append_right _ List.mem_cons_self

/-- What stands at a path after something was put there, or elsewhere. -/
theorem node?_insert
    {path : Path}
    (named : path ≠ [])
    (node : Node)
    (other : Path) :
    (disk.insert path node).node? other =
      if other = path then some node else disk.node? other := by
  by_cases same : other = path
  · subst same
    rw [if_pos rfl, node?_insert_self disk other node named]
  · rw [if_neg same, node?_insert_of_ne disk node same]

/-- What stands at a path after a directory was made there, or elsewhere. -/
theorem node?_addDirectory
    {path : Path}
    (named : path ≠ [])
    (other : Path) :
    (disk.addDirectory path).node? other =
      if other = path then some (.directory disk.fresh) else disk.node? other :=
  node?_insert disk named (.directory disk.fresh) other

/-- What stands at a path after a file was made there, or elsewhere. -/
theorem node?_addFile
    {path : Path}
    (named : path ≠ [])
    (file : File)
    (other : Path) :
    (disk.addFile path file).2.node? other =
      if other = path then some (.file disk.fresh) else disk.node? other :=
  node?_insert disk named (.file disk.fresh) other

/-- What stands at a path after all was taken away that stood at one or below. -/
theorem node?_eraseTree
    {path : Path}
    (named : path ≠ [])
    (other : Path) :
    (disk.eraseTree path).node? other =
      if Path.isWithin other path then none else disk.node? other := by
  unfold node? eraseTree
  rw [lookup_filter (fun key => !Path.isWithin key path)]
  by_cases root : other = []
  · subst root
    simp [Path.isWithin_nil_of_ne named]
  · cases inside : Path.isWithin other path <;> simp [root]

/-- What a file holds after a file was made. -/
theorem file?_addFile
    (path : Path)
    (file : File)
    (id : Nat) :
    (disk.addFile path file).2.file? id =
      if id = disk.fresh then some file else disk.file? id := by
  unfold file? addFile
  rw [List.lookup_cons]
  by_cases same : id = disk.fresh
  · simp [same]
  · simp [same, beq_false_of_ne same]

/-- What a file holds after one was changed. -/
theorem file?_updateFile
    (id : Nat)
    (change : File → File)
    (other : Nat) :
    (disk.updateFile id change).file? other =
      if other = id then (disk.file? id).map change else disk.file? other := by
  unfold file? updateFile
  induction disk.files with
  | nil =>
      simp
  | cons entry rest inductionHypothesis =>
      obtain ⟨number, file⟩ := entry
      by_cases here : number = id
      · subst here
        by_cases same : other = number
        · subst same
          simp
        · simp [List.lookup_cons, beq_false_of_ne same, same] at inductionHypothesis ⊢
          exact inductionHypothesis
      · by_cases same : other = id
        · subst same
          simp [List.lookup_cons, here, beq_false_of_ne (Ne.symm here)] at inductionHypothesis ⊢
          exact inductionHypothesis
        · by_cases there : other = number
          · subst there
            simp [here]
          · simp [List.lookup_cons, here, beq_false_of_ne there, same] at inductionHypothesis ⊢
            exact inductionHypothesis

end Disk

end CompilePlayground.Posix
