import CompilePlayground.Proofs.Posix.Directories

namespace CompilePlayground.Posix

/-!
# Work in a directory of one's own

Where a name `Awaits` a directory, the directory can be made, files can be made in it, and it can
be taken away again. Each of these touches nothing but the directory, which is what `Housed`
says, and after the last of them the disk is `CleanedUp`.
-/

namespace Disk

variable {disk before after above : Disk} {start place : Path} {name child : Bytes}

/-- A disk on which a file was made where nothing stood. -/
structure Gains (path : Path) (file : File) (before after : Disk) : Prop where
  nodes : ∀ other, after.node? other =
    if other = path then some (.file before.fresh) else before.node? other
  files : ∀ id, after.file? id = if id = before.fresh then some file else before.file? id
  fresh : after.fresh = before.fresh + 1

/-- A new file stands where it was made. -/
theorem gains_addFile
    (disk : Disk)
    {path : Path}
    (named : path ≠ [])
    (file : File) :
    Gains path file disk (disk.addFile path file).2 :=
  ⟨node?_addFile disk named file, file?_addFile disk path file, rfl⟩

/-- What a new file holds can be told in another way. -/
theorem Gains.of_eq
    {path : Path}
    {file other : File}
    (gains : Gains path file before after)
    (same : file = other) :
    Gains path other before after :=
  same ▸ gains

/-- A new file holds what is put into it. -/
theorem Gains.updateFile
    {path : Path}
    {file : File}
    (gains : Gains path file before after)
    (change : File → File) :
    Gains path (change file) before (after.updateFile before.fresh change) where
  nodes := gains.nodes
  files id := by
    rw [file?_updateFile, gains.files, if_pos rfl, gains.files]
    split <;> rfl
  fresh := gains.fresh

/-- A file that is to be in a directory is made there. -/
theorem Leads.obtainFile_eq
    (leads : disk.Leads start name place)
    (plain : Path.IsPlain child)
    (short : child.length ≤ Path.stepLimit)
    (vacant : disk.node? (place ++ [child]) = none)
    (usable : Path.IsUsable (Path.join name child))
    (time : Nat) :
    disk.obtainFile (some start) time (Path.join name child) =
      .ok (disk.addFile (place ++ [child])
        { content := .bytes [], mode := standardMode, modified := time }) := by
  obtain ⟨left, onward⟩ := leads.enters.locate_join plain
  obtain ⟨id, directory⟩ := leads.enters.node?_eq
  unfold obtainFile
  rw [onward disk (fun _ _ found => found) usable,
    walk_vacant directory plain.ne_here plain.ne_above short vacant]

/-- Under a name that is not taken no file is made, whatever is there. -/
theorem obtainFile_of_not_isUsable
    (unusable : ¬Path.IsUsable name) :
    ∃ error, ∀ (disk : Disk) (start? : Option Path) (time : Nat),
      disk.obtainFile start? time name = .error error := by
  obtain ⟨error, nowhere⟩ := locate_of_not_isUsable unusable
  refine ⟨if error = .notFound && name.getLast? == some slash then .isDirectory else error, ?_⟩
  intro disk start? time
  unfold obtainFile
  rw [nowhere]
  simp only
  split <;> rfl

/-- A file that is written in a directory where nothing had its name. -/
theorem Leads.write_eq
    (leads : disk.Leads start name place)
    (plain : Path.IsPlain child)
    (short : child.length ≤ Path.stepLimit)
    (vacant : disk.node? (place ++ [child]) = none)
    (usable : Path.IsUsable (Path.join name child))
    (time : Nat)
    (bytes : Bytes) :
    ∃ next, disk.write (some start) time (Path.join name child) bytes = .ok next ∧
      Gains (place ++ [child])
        { content := .bytes bytes, mode := standardMode, modified := time } disk next := by
  have named : place ++ [child] ≠ [] := by
    simp
  have made := gains_addFile disk named
    { content := .bytes [], mode := standardMode, modified := time }
  have filled := (made.updateFile (File.emptied time)).updateFile (File.filledAt 0 time bytes)
  refine ⟨_, ?_, filled.of_eq (by simp [File.emptied, File.filledAt, File.bytes])⟩
  unfold write
  rw [leads.obtainFile_eq plain short vacant usable]
  rfl

/-- A directory that could be taken away is gone with all that was in it. -/
theorem Leads.eq_eraseTree
    (leads : disk.Leads start name place)
    (removed : disk.removeTree (some start) name = .ok after) :
    place ≠ [] ∧ after = disk.eraseTree place := by
  by_cases usable : Path.IsUsable name
  · obtain ⟨id, found⟩ := leads.find_eq usable false
    unfold removeTree at removed
    rw [found] at removed
    simp only at removed
    split at removed
    · cases removed
    next named =>
      cases removed
      exact ⟨by simpa using named, rfl⟩
  · obtain ⟨error, nowhere⟩ := locate_of_not_isUsable usable
    unfold removeTree find at removed
    rw [nowhere] at removed
    cases removed

/-- Nothing is found under a name that still awaits its directory. -/
theorem Awaits.not_found
    (awaits : disk.Awaits start name place)
    (follow : Bool)
    (other : Path)
    (node : Node) :
    disk.find (some start) follow name ≠ .ok (other, node) := by
  intro found
  have located := find_eq_ok.1 found
  rw [locate_of_isUsable disk start follow (isUsable_of_locate located)] at located
  rcases Path.steps_cases name with same | ⟨_, same⟩
  · rw [same, awaits follow] at located
    cases located
  · rw [same] at located
    obtain ⟨_, _, walks⟩ := directory_of_walk_append (by simp) located
    rw [awaits true] at walks
    cases walks

/-- What a name leads to depends on nothing but what stands where. -/
theorem find_congr
    (same : ∀ path, before.node? path = after.node? path)
    (start? : Option Path)
    (follow : Bool)
    (name : Bytes) :
    before.find start? follow name = after.find start? follow name := by
  unfold find locate
  simp only [walk_congr same]

/-- A disk on which a directory was made at a place that its name awaited, when nothing has
happened since but within the place. -/
structure Housed
    (start : Path)
    (name : Bytes)
    (place : Path)
    (above disk : Disk) :
    Prop where
  sound : above.Sound
  awaits : above.Awaits start name place
  outside : SameOutside place above disk
  directory : ∃ id, disk.node? place = some (.directory id)

namespace Housed

/-- All that stood above the directory is still there. -/
theorem kept
    (housed : Housed start name place above disk)
    (path : Path)
    (node : Node)
    (found : above.node? path = some node) :
    disk.node? path = some node := by
  have apart := housed.sound.not_isWithin_vacant housed.awaits.vacant.1 found
  rw [housed.outside.nodes path apart]
  exact found

theorem leads
    (housed : Housed start name place above disk) :
    disk.Leads start name place := by
  obtain ⟨id, directory⟩ := housed.directory
  exact housed.awaits.leads housed.kept directory

/-- A directory has just been made. -/
theorem addDirectory
    (sound : above.Sound)
    (awaits : above.Awaits start name place) :
    Housed start name place above (above.addDirectory place) where
  sound := sound
  awaits := awaits
  outside :=
    { nodes := by
        intro path apart
        rw [node?_addDirectory above awaits.ne_nil, if_neg]
        rintro rfl
        rw [Path.isWithin_self] at apart
        cases apart
      files := fun _ _ _ _ => rfl }
  directory := ⟨above.fresh, by rw [node?_addDirectory above awaits.ne_nil, if_pos rfl]⟩

/-- A file is made in the directory. -/
theorem gains
    (housed : Housed start name place above before)
    (later : above.fresh ≤ before.fresh)
    {file : File}
    (gains : Gains (place ++ [child]) file before after) :
    Housed start name place above after where
  sound := housed.sound
  awaits := housed.awaits
  outside :=
    { nodes := by
        intro path apart
        rw [gains.nodes, if_neg, housed.outside.nodes path apart]
        rintro rfl
        rw [Path.isWithin_append] at apart
        cases apart
      files := by
        intro path id apart found
        have given := housed.sound.numbered path id found
        rw [gains.files, if_neg (by omega), housed.outside.files path id apart found] }
  directory := by
    obtain ⟨id, directory⟩ := housed.directory
    refine ⟨id, ?_⟩
    rw [gains.nodes, if_neg (by simp)]
    exact directory

/-- Something happens within the directory. -/
theorem within
    (housed : Housed start name place above before)
    (outside : SameOutside place before after)
    (stays : after.node? place = before.node? place) :
    Housed start name place above after where
  sound := housed.sound
  awaits := housed.awaits
  outside :=
    { nodes := fun path apart =>
        (outside.nodes path apart).trans (housed.outside.nodes path apart)
      files := fun path id apart found =>
        (outside.files path id apart (housed.kept path _ found)).trans
          (housed.outside.files path id apart found) }
  directory := by
    rw [stays]
    exact housed.directory

/-- Once the directory was taken away, all is as it was above it. -/
theorem node?_removed
    (housed : Housed start name place above before)
    (removed : before.removeTree (some start) name = .ok after)
    (path : Path) :
    above.node? path = after.node? path := by
  obtain ⟨named, rfl⟩ := housed.leads.eq_eraseTree removed
  rw [node?_eraseTree before named]
  split
  next inside =>
    obtain ⟨rest, rfl⟩ := Path.isWithin_iff.1 inside
    exact housed.sound.vacant_within housed.awaits.vacant.1 rest
  next apart =>
    exact (housed.outside.nodes path (by simpa using apart)).symm

/-- Once the directory was taken away, all files hold what they held. -/
theorem file?_removed
    (housed : Housed start name place above before)
    (removed : before.removeTree (some start) name = .ok after)
    {path : Path}
    {id : Nat}
    (found : above.node? path = some (.file id)) :
    after.file? id = above.file? id := by
  have apart := housed.sound.not_isWithin_vacant housed.awaits.vacant.1 found
  obtain ⟨_, rfl⟩ := housed.leads.eq_eraseTree removed
  exact housed.outside.files path id apart found

end Housed

/-- What a clean disk is after a directory was made for a name and taken away again: the name
leads to nothing, all that there was is still there with what it held, and there is nothing else
than directories above. -/
structure CleanedUp
    (start : Path)
    (name : Bytes)
    (before after : Disk) :
    Prop where
  gone : ∀ place node, after.find (some start) true name ≠ .ok (place, node)
  kept : ∀ path node, before.node? path = some node → after.node? path = some node
  contents : ∀ path id, before.node? path = some (.file id) → after.file? id = before.file? id
  added : ∀ path node, before.node? path = none → after.node? path = some node →
    ∃ other, Path.IsAbove other name ∧ after.Enters start other path

/-- Directories were made above a name that leads to nothing. -/
theorem Raised.cleanedUp
    (raised : Raised start (fun other => Path.IsAbove other name) before after)
    (nowhere : ∀ place node, after.find (some start) true name ≠ .ok (place, node)) :
    CleanedUp start name before after where
  gone := nowhere
  kept := raised.grows.kept
  contents _ id _ := raised.files id
  added := raised.added

/-- A directory was made below those above it, and taken away again. -/
theorem Housed.cleanedUp
    (raised : Raised start (fun other => Path.IsAbove other name) before above)
    (housed : Housed start name place above disk)
    (removed : disk.removeTree (some start) name = .ok after) :
    CleanedUp start name before after where
  gone other node found := by
    rw [← find_congr (housed.node?_removed removed)] at found
    exact housed.awaits.not_found true other node found
  kept path node found := by
    rw [← housed.node?_removed removed]
    exact raised.grows.kept path node found
  contents path id found := by
    rw [housed.file?_removed removed (raised.grows.kept path _ found), raised.files]
  added path node vacant found := by
    rw [← housed.node?_removed removed] at found
    obtain ⟨other, isAbove, enters⟩ := raised.added path node vacant found
    refine ⟨other, isAbove, enters.of_kept ?_⟩
    intro path node there
    rw [← housed.node?_removed removed]
    exact there

end Disk

end CompilePlayground.Posix
