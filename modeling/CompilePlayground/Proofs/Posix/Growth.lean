import CompilePlayground.Proofs.Posix.Lookup
import Mathlib.Data.List.Induction

namespace CompilePlayground.Posix.Disk

/-!
# Disks that are in order, and disks that grow

On a disk that is `Sound`, whatever stands anywhere stands in a directory, and the numbers of
files have all been given. `Grows` says that a disk still has all that another one has, and
`SameOutside` that two disks differ at most within one place.
-/

/-- Whatever stands anywhere stands in a directory, and no file has a number that is still to be
given. -/
structure Sound (disk : Disk) : Prop where
  rooted : ∀ path step node, disk.node? (path ++ [step]) = some node →
    ∃ id, disk.node? path = some (.directory id)
  numbered : ∀ path id, disk.node? path = some (.file id) → id < disk.fresh

/-- All that stands on one disk still stands on another, and its files hold what they held. -/
structure Grows (before after : Disk) : Prop where
  kept : ∀ path node, before.node? path = some node → after.node? path = some node
  files : ∀ id, id < before.fresh → after.file? id = before.file? id
  fresh : before.fresh ≤ after.fresh

/-- Two disks differ at most within a place: outside of it, the same stands everywhere, and the
files that stand there hold the same. -/
structure SameOutside (place : Path) (before after : Disk) : Prop where
  nodes : ∀ path, Path.isWithin path place = false → after.node? path = before.node? path
  files : ∀ path id, Path.isWithin path place = false →
    before.node? path = some (.file id) → after.file? id = before.file? id

namespace Sound

variable {disk : Disk}

/-- Nothing stands below a place where nothing stands. -/
theorem vacant_within
    (sound : disk.Sound)
    {place : Path}
    (vacant : disk.node? place = none)
    (rest : Path) :
    disk.node? (place ++ rest) = none := by
  induction rest using List.reverseRecOn with
  | nil =>
      simpa using vacant
  | append_singleton rest step inductionHypothesis =>
      rw [Option.eq_none_iff_forall_ne_some]
      intro node found
      rw [← List.append_assoc] at found
      obtain ⟨_, parent⟩ := sound.rooted _ step node found
      rw [inductionHypothesis] at parent
      cases parent

/-- A path at which something stands does not lie within a place where nothing stands. -/
theorem not_isWithin_vacant
    (sound : disk.Sound)
    {place path : Path}
    {node : Node}
    (vacant : disk.node? place = none)
    (found : disk.node? path = some node) :
    Path.isWithin path place = false := by
  rw [← Bool.not_eq_true, Path.isWithin_iff]
  rintro ⟨rest, rfl⟩
  rw [sound.vacant_within vacant rest] at found
  cases found

/-- A disk with nothing on it is in order. -/
theorem of_empty : Sound empty where
  rooted path step node found := by
    rw [node?_empty _ (by simp)] at found
    cases found
  numbered path id found := by
    by_cases root : path = []
    · subst root
      cases found
    · rw [node?_empty path root] at found
      cases found

/-- A directory can be made in a directory where nothing stands. -/
theorem addDirectory
    (sound : disk.Sound)
    {place : Path}
    {step : Bytes}
    {id : Nat}
    (parent : disk.node? place = some (.directory id)) :
    (disk.addDirectory (place ++ [step])).Sound where
  rooted path last node found := by
    rw [node?_addDirectory _ (by simp)] at found ⊢
    by_cases here : path ++ [last] = place ++ [step]
    · obtain ⟨rfl, _⟩ := List.append_inj' here rfl
      rw [if_neg (by simp)]
      exact ⟨id, parent⟩
    · rw [if_neg here] at found
      obtain ⟨other, directory⟩ := sound.rooted path last node found
      split
      · exact ⟨_, rfl⟩
      · exact ⟨other, directory⟩
  numbered path number found := by
    rw [node?_addDirectory _ (by simp)] at found
    split at found
    · cases found
    · exact Nat.lt_succ_of_lt (sound.numbered path number found)

/-- A file can be made in a directory where nothing stands. -/
theorem addFile
    (sound : disk.Sound)
    {place : Path}
    {step : Bytes}
    {id : Nat}
    (parent : disk.node? place = some (.directory id))
    (vacant : disk.node? (place ++ [step]) = none)
    (file : File) :
    (disk.addFile (place ++ [step]) file).2.Sound where
  rooted path last node found := by
    rw [node?_addFile _ (by simp)] at found ⊢
    by_cases here : path ++ [last] = place ++ [step]
    · obtain ⟨rfl, _⟩ := List.append_inj' here rfl
      rw [if_neg (by simp)]
      exact ⟨id, parent⟩
    · rw [if_neg here] at found
      obtain ⟨other, directory⟩ := sound.rooted path last node found
      rw [if_neg]
      · exact ⟨other, directory⟩
      · rintro rfl
        rw [vacant] at directory
        cases directory
  numbered path number found := by
    rw [node?_addFile _ (by simp)] at found
    split at found
    · cases found
      exact Nat.lt_succ_self _
    · exact Nat.lt_succ_of_lt (sound.numbered path number found)

/-- A symbolic link can be made in a directory where nothing stands. -/
theorem insertLink
    (sound : disk.Sound)
    {place : Path}
    {step : Bytes}
    {id : Nat}
    (parent : disk.node? place = some (.directory id))
    (vacant : disk.node? (place ++ [step]) = none)
    (target : Bytes) :
    (disk.insert (place ++ [step]) (.link target)).Sound where
  rooted path last node found := by
    rw [node?_insert _ (by simp)] at found ⊢
    by_cases here : path ++ [last] = place ++ [step]
    · obtain ⟨rfl, _⟩ := List.append_inj' here rfl
      rw [if_neg (by simp)]
      exact ⟨id, parent⟩
    · rw [if_neg here] at found
      obtain ⟨other, directory⟩ := sound.rooted path last node found
      rw [if_neg]
      · exact ⟨other, directory⟩
      · rintro rfl
        rw [vacant] at directory
        cases directory
  numbered path number found := by
    rw [node?_insert _ (by simp)] at found
    split at found
    · cases found
    · exact sound.numbered path number found

/-- A directory can be taken away with all that is in it. -/
theorem eraseTree
    (sound : disk.Sound)
    {place : Path}
    (named : place ≠ []) :
    (disk.eraseTree place).Sound where
  rooted path step node found := by
    rw [node?_eraseTree _ named] at found ⊢
    split at found
    · cases found
    next outside =>
      rw [if_neg]
      · exact sound.rooted path step node found
      · intro inside
        exact outside (Path.isWithin_trans (Path.isWithin_append path [step]) inside)
  numbered path number found := by
    rw [node?_eraseTree _ named] at found
    split at found
    · cases found
    · exact sound.numbered path number found

/-- Whether a disk is in order depends on nothing but what stands where. -/
theorem congr
    {other : Disk}
    (sound : disk.Sound)
    (nodes : ∀ path, other.node? path = disk.node? path)
    (fresh : disk.fresh ≤ other.fresh) :
    other.Sound where
  rooted path step node found := by
    rw [nodes] at found ⊢
    exact sound.rooted path step node found
  numbered path id found := by
    rw [nodes] at found
    exact Nat.lt_of_lt_of_le (sound.numbered path id found) fresh

end Sound

namespace Grows

theorem refl (disk : Disk) : Grows disk disk :=
  ⟨fun _ _ found => found, fun _ _ => rfl, Nat.le_refl _⟩

/-- What stays twice stays. -/
theorem trans
    {first second third : Disk}
    (earlier : Grows first second)
    (later : Grows second third) :
    Grows first third where
  kept path node found := later.kept path node (earlier.kept path node found)
  files id given :=
    (later.files id (Nat.lt_of_lt_of_le given earlier.fresh)).trans (earlier.files id given)
  fresh := Nat.le_trans earlier.fresh later.fresh

/-- A disk grows by a directory. -/
theorem addDirectory
    (disk : Disk)
    {path : Path}
    (vacant : disk.node? path = none) :
    Grows disk (disk.addDirectory path) where
  kept other node found := by
    have named : path ≠ [] := by
      rintro rfl
      cases vacant
    rw [node?_addDirectory disk named, if_neg]
    · exact found
    · rintro rfl
      rw [vacant] at found
      cases found
  files _ _ := rfl
  fresh := Nat.le_succ _

end Grows

end CompilePlayground.Posix.Disk
