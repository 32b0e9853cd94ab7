import CompilePlayground.Proofs.Posix.Housing
import Mathlib.Logic.Function.Basic

namespace CompilePlayground.Posix

/-!
# What can be seen of a disk, and what touches only part of it

Programs do not see the numbers that a disk gives to files and directories. What they see below a
place is its `View`. A change that `Touches` one place leaves the views of all other places alone,
and a whole `Tree` can be planted below a directory, which is then all that can be seen there.
-/

/-- What can be seen of a file, a directory or a link. A file without content is lost. -/
inductive Item where
  | directory
  | file (file : File)
  | link (target : Bytes)
  | lost

/-- What can be seen below a place. -/
abbrev View := Path → Option Item

namespace Disk

variable {disk before after first second : Disk} {place path other : Path}

/-- What can be seen of a node. -/
def itemOf (disk : Disk) : Node → Item
  | .directory _ => .directory
  | .file id =>
    match disk.file? id with
    | some file => .file file
    | none => .lost
  | .link target => .link target

/-- What can be seen at a path. -/
def item? (disk : Disk) (path : Path) : Option Item :=
  (disk.node? path).map disk.itemOf

/-- What can be seen below a place. -/
def view (disk : Disk) (place : Path) : View :=
  fun rest => disk.item? (place ++ rest)

/-- Only directories look like one. -/
@[simp] theorem itemOf_eq_directory {node : Node} :
    disk.itemOf node = .directory ↔ ∃ id, node = .directory id := by
  unfold itemOf
  cases node with
  | directory id =>
      simp
  | link target =>
      simp
  | file id =>
      cases content : disk.file? id <;> simp [content]

/-- Only links look like one. -/
@[simp] theorem itemOf_eq_link {node : Node} {target : Bytes} :
    disk.itemOf node = .link target ↔ node = .link target := by
  unfold itemOf
  cases node with
  | directory id =>
      simp
  | link target =>
      simp
  | file id =>
      cases content : disk.file? id <;> simp [content]

/-- A directory is seen where one stands. -/
theorem item?_eq_directory :
    disk.item? path = some .directory ↔ ∃ id, disk.node? path = some (.directory id) := by
  unfold item?
  cases disk.node? path <;> simp

/-- A link is seen where one stands. -/
theorem item?_eq_link
    {target : Bytes} :
    disk.item? path = some (.link target) ↔ disk.node? path = some (.link target) := by
  unfold item?
  cases disk.node? path <;> simp

/-- A file is seen where one stands that is not lost. -/
theorem item?_eq_file
    {file : File} :
    disk.item? path = some (.file file) ↔
      ∃ id, disk.node? path = some (.file id) ∧ disk.file? id = some file := by
  unfold item?
  cases disk.node? path with
  | none =>
      simp
  | some node =>
      cases node with
      | directory | link =>
          simp [itemOf]
      | file id =>
          cases isThere : disk.file? id <;> simp [itemOf, isThere]

/-- A directory is there as long as all looks the same below it. -/
theorem directory_of_view
    (same : first.view place = second.view place)
    (directory : ∃ id, first.node? place = some (.directory id)) :
    ∃ id, second.node? place = some (.directory id) := by
  have seen := congrFun same []
  simp only [view, List.append_nil] at seen
  rw [← item?_eq_directory] at directory ⊢
  rw [← seen]
  exact directory

@[simp] theorem item?_eq_none :
    disk.item? path = none ↔ disk.node? path = none := by
  unfold item?
  cases disk.node? path <;> simp

/-- Where the same is seen, nothing stands on either of two disks, or things that look alike. -/
theorem node?_of_item?_eq
    (same : first.item? path = second.item? path) :
    first.node? path = none ∧ second.node? path = none ∨
      ∃ one two, first.node? path = some one ∧ second.node? path = some two ∧
        first.itemOf one = second.itemOf two := by
  unfold item? at same
  cases one : first.node? path with
  | none =>
      cases two : second.node? path with
      | none =>
          exact .inl ⟨rfl, rfl⟩
      | some node =>
          rw [one, two] at same
          cases same
  | some node =>
      cases two : second.node? path with
      | none =>
          rw [one, two] at same
          cases same
      | some another =>
          rw [one, two] at same
          exact .inr ⟨node, another, rfl, rfl, Option.some.inj same⟩

/-- Two things that look alike. -/
inductive LookAlike (first second : Disk) : Node → Node → Prop where
  | directory
      (one two : Nat) :
      LookAlike first second (.directory one) (.directory two)
  | link
      (target : Bytes) :
      LookAlike first second (.link target) (.link target)
  | file
      {one two : Nat}
      (same : second.file? two = first.file? one) :
      LookAlike first second (.file one) (.file two)

/-- Things that look alike are of one sort, with the same target or the same file. -/
theorem lookAlike_of_itemOf_eq
    {one two : Node}
    (alike : first.itemOf one = second.itemOf two) :
    LookAlike first second one two := by
  cases one with
  | directory id =>
      obtain ⟨number, rfl⟩ := itemOf_eq_directory.1 (alike.symm.trans rfl)
      exact .directory id number
  | link target =>
      obtain rfl := itemOf_eq_link.1 (alike.symm.trans rfl)
      exact .link target
  | file id =>
      cases two with
      | directory number =>
          exact absurd (itemOf_eq_directory.1 alike) (by simp)
      | link target =>
          exact absurd (itemOf_eq_link.1 alike) (by simp)
      | file number =>
          refine .file ?_
          unfold itemOf at alike
          cases isOne : first.file? id <;> cases isTwo : second.file? number <;> simp_all

/-- A change that touches nothing but what stands within a place. -/
structure Touches (place : Path) (before after : Disk) : Prop where
  nodes : ∀ path, Path.isWithin path place = false → after.node? path = before.node? path
  files : ∀ id, id < before.fresh → after.file? id = before.file? id
  fresh : before.fresh ≤ after.fresh
  sound : after.Sound

namespace Touches

theorem refl (sound : disk.Sound) : Touches place disk disk :=
  ⟨fun _ _ => rfl, fun _ _ => rfl, Nat.le_refl _, sound⟩

/-- What is touched twice is touched. -/
theorem trans
    {between : Disk}
    (earlier : Touches place before between)
    (later : Touches place between after) :
    Touches place before after where
  nodes path outside := (later.nodes path outside).trans (earlier.nodes path outside)
  files id given :=
    (later.files id (Nat.lt_of_lt_of_le given earlier.fresh)).trans (earlier.files id given)
  fresh := Nat.le_trans earlier.fresh later.fresh
  sound := later.sound

/-- Nothing else can be seen where nothing was touched. -/
theorem item?_eq
    (touches : Touches place before after)
    (sound : before.Sound)
    (outside : Path.isWithin path place = false) :
    after.item? path = before.item? path := by
  unfold item?
  rw [touches.nodes path outside]
  cases found : before.node? path with
  | none =>
      rfl
  | some node =>
      cases node with
      | directory | link =>
          rfl
      | file id =>
          simp only [Option.map_some, itemOf, touches.files id (sound.numbered path id found)]

/-- A directory is made in one that is there. -/
theorem addDirectory
    (sound : disk.Sound)
    {parent : Path}
    {step : Bytes}
    {id : Nat}
    (directory : disk.node? parent = some (.directory id)) :
    Touches (parent ++ [step]) disk (disk.addDirectory (parent ++ [step])) where
  nodes path outside := by
    rw [node?_addDirectory disk (by simp), if_neg]
    rintro rfl
    rw [Path.isWithin_self] at outside
    cases outside
  files _ _ := rfl
  fresh := Nat.le_succ _
  sound := sound.addDirectory directory

/-- A directory is taken away with all that is in it. -/
theorem eraseTree
    (sound : disk.Sound)
    (named : place ≠ []) :
    Touches place disk (disk.eraseTree place) where
  nodes path outside := by
    rw [node?_eraseTree disk named, outside]
    rfl
  files _ _ := rfl
  fresh := Nat.le_refl _
  sound := sound.eraseTree named

end Touches

/-- A file that was made in a directory touches nothing else there is. -/
theorem Gains.touches
    {child : Bytes}
    {file : File}
    (gains : Gains (place ++ [child]) file before after)
    (sound : before.Sound)
    {id : Nat}
    (directory : before.node? place = some (.directory id))
    (vacant : before.node? (place ++ [child]) = none) :
    Touches place before after where
  nodes path outside := by
    rw [gains.nodes, if_neg]
    rintro rfl
    rw [Path.isWithin_append] at outside
    cases outside
  files number given := by
    rw [gains.files, if_neg (Nat.ne_of_lt given)]
  fresh := by
    rw [gains.fresh]
    exact Nat.le_succ _
  sound := by
    refine (sound.addFile directory vacant file).congr (fun path => ?_) (Nat.le_of_eq ?_)
    · rw [gains.nodes, node?_addFile before (by simp)]
    · rw [gains.fresh]
      rfl

/-- A file that was made is seen where it was made, and all else as before. -/
theorem Gains.item?_eq
    {file : File}
    (gains : Gains path file before after)
    (sound : before.Sound)
    (other : Path) :
    after.item? other = if other = path then some (.file file) else before.item? other := by
  unfold item?
  rw [gains.nodes]
  split
  · simp [itemOf, gains.files]
  · cases found : before.node? other with
    | none =>
        rfl
    | some node =>
        cases node with
        | directory | link =>
            rfl
        | file id =>
            have given := sound.numbered other id found
            simp only [Option.map_some, itemOf, gains.files, if_neg (Nat.ne_of_lt given)]

/-- What is seen below a directory in which a file was made. -/
theorem Gains.view_eq
    {child : Bytes}
    {file : File}
    (gains : Gains (place ++ [child]) file before after)
    (sound : before.Sound) :
    after.view place = Function.update (before.view place) [child] (some (.file file)) := by
  funext rest
  unfold view
  rw [gains.item?_eq sound, Function.update_apply]
  simp only [List.append_cancel_left_eq]

end Disk

end CompilePlayground.Posix
