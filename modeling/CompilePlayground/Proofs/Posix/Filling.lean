import CompilePlayground.Proofs.Posix.Hosting

namespace CompilePlayground.Posix

/-!
# Files that are filled in a directory

A file that is filled under a plain name in a directory holds what was put into it, whether the
name was taken before or not, as long as no link and no device stands there. On a disk that is
`Charted` every directory is found by its number; a place is `Linkless` when no link of either sort
stands below it, and `Ordinary` when there is no device either.
-/

namespace Disk

variable {disk before after next : Disk} {start home : Path} {name child bytes : Bytes} {id : Nat}

/-- Every directory is found by its number, and no directory has a number that is still to be
given. -/
structure Charted (disk : Disk) : Prop where
  found : ∀ path id, disk.node? path = some (.directory id) → disk.directoryPath? id = some path
  given : ∀ entry ∈ disk.entries, ∀ id, entry.2 = .directory id → id < disk.fresh
  root : rootId < disk.fresh

/-- Below a place there is no symbolic link and no file with two names. -/
structure Linkless (disk : Disk) (place : Path) : Prop where
  plain : ∀ rest target, disk.node? (place ++ rest) ≠ some (.link target)
  single : ∀ first second id, disk.node? (place ++ first) = some (.file id) →
    disk.node? (place ++ second) = some (.file id) → first = second

/-- Below a place there is no link of either sort and no device: what has the name of a file is a
file that can be filled. -/
structure Ordinary (disk : Disk) (place : Path) : Prop extends Linkless disk place where
  deviceless : ∀ rest id, disk.node? (place ++ rest) = some (.file id) →
    ∃ file, disk.file? id = some file ∧ file.content ≠ .void

/-- A disk to which nothing but directories was added. -/
structure Roomier (before after : Disk) : Prop where
  sound : after.Sound
  charted : after.Charted
  files : ∀ id, after.file? id = before.file? id
  nodes : ∀ path node, after.node? path = some node →
    before.node? path = some node ∨ ∃ id, node = .directory id

namespace Charted

/-- A directory that was numbered has a number that was given. -/
theorem lt_fresh
    (charted : disk.Charted)
    {path : Path}
    (found : disk.directoryPath? id = some path) :
    id < disk.fresh := by
  unfold directoryPath? at found
  split at found
  next isRoot =>
    exact isRoot ▸ charted.root
  next =>
    obtain ⟨entry, isFirst, _⟩ := Option.map_eq_some_iff.1 found
    exact charted.given entry (List.mem_of_find?_eq_some isFirst) id
      (by simpa using List.find?_some isFirst)

/-- A disk with nothing on it is charted. -/
theorem of_empty : empty.Charted where
  found path id found := by
    by_cases root : path = []
    · subst root
      cases found
      rfl
    · rw [node?_empty path root] at found
      cases found
  given entry isThere := absurd isThere List.not_mem_nil
  root := Nat.one_pos

/-- A directory is found by its number once it is made. -/
theorem addDirectory
    (charted : disk.Charted)
    {path : Path}
    (named : path ≠ []) :
    (disk.addDirectory path).Charted where
  found other id found := by
    rw [node?_addDirectory disk named] at found
    unfold directoryPath? Disk.addDirectory
    split at found
    next same =>
      cases found
      rw [if_neg (Nat.ne_of_gt charted.root), List.find?_cons_of_pos (by simp), same]
      rfl
    next =>
      have earlier := charted.found other id found
      have older : disk.fresh ≠ id := Nat.ne_of_gt (charted.lt_fresh earlier)
      rw [List.find?_cons_of_neg (by simpa using older)]
      exact earlier
  given entry isThere id same := by
    rcases List.mem_cons.1 isThere with rfl | earlier
    · cases same
      exact Nat.lt_succ_self _
    · exact Nat.lt_succ_of_lt (charted.given entry earlier id same)
  root := Nat.lt_succ_of_lt charted.root

/-- Directories are found as before when a file is made. -/
theorem addFile
    (charted : disk.Charted)
    {path : Path}
    (named : path ≠ [])
    (file : File) :
    (disk.addFile path file).2.Charted where
  found other id found := by
    rw [node?_addFile disk named] at found
    split at found
    · cases found
    · unfold directoryPath? Disk.addFile
      rw [List.find?_cons_of_neg (by simp)]
      exact charted.found other id found
  given entry isThere id same := by
    rcases List.mem_cons.1 isThere with rfl | earlier
    · cases same
    · exact Nat.lt_succ_of_lt (charted.given entry earlier id same)
  root := Nat.lt_succ_of_lt charted.root

/-- Directories are found as before when a file is changed. -/
theorem updateFile
    (charted : disk.Charted)
    (id : Nat)
    (change : File → File) :
    (disk.updateFile id change).Charted :=
  ⟨charted.found, charted.given, charted.root⟩

end Charted

/-- There are no links and no devices below a place where nothing stands. -/
theorem Ordinary.of_vacant
    (sound : disk.Sound)
    (vacant : disk.node? home = none) :
    disk.Ordinary home where
  plain rest target found := by
    rw [sound.vacant_within vacant] at found
    cases found
  single first second id found := by
    rw [sound.vacant_within vacant] at found
    cases found
  deviceless rest id found := by
    rw [sound.vacant_within vacant] at found
    cases found

namespace Roomier

theorem refl (sound : disk.Sound) (charted : disk.Charted) : Roomier disk disk :=
  ⟨sound, charted, fun _ => rfl, fun _ _ => .inl⟩

/-- One more directory can be made in a directory. -/
theorem addDirectory
    (roomier : Roomier before after)
    (parent : after.node? home = some (.directory id)) :
    Roomier before (after.addDirectory (home ++ [child])) where
  sound := roomier.sound.addDirectory parent
  charted := roomier.charted.addDirectory (by simp)
  files := roomier.files
  nodes path node found := by
    rw [node?_addDirectory after (by simp)] at found
    split at found
    · cases found
      exact .inr ⟨_, rfl⟩
    · exact roomier.nodes path node found

/-- No link and no device is made together with directories. -/
theorem ordinary
    (roomier : Roomier before after)
    (ordinary : before.Ordinary home) :
    after.Ordinary home where
  plain rest target found := by
    rcases roomier.nodes _ _ found with old | ⟨_, same⟩
    · exact ordinary.plain rest target old
    · cases same
  single first second id one two := by
    rcases roomier.nodes _ _ one with oldOne | ⟨_, same⟩
    · rcases roomier.nodes _ _ two with oldTwo | ⟨_, same⟩
      · exact ordinary.single first second id oldOne oldTwo
      · cases same
    · cases same
  deviceless rest id found := by
    rcases roomier.nodes _ _ found with old | ⟨_, same⟩
    · rw [roomier.files]
      exact ordinary.deviceless rest id old
    · cases same

/-- However far an attempt to make a directory gets, nothing but directories is added. -/
theorem of_tryDirectoriesWithin
    (sound : disk.Sound)
    (charted : disk.Charted)
    (start : Path)
    (depth : Nat)
    (name : Bytes) :
    Roomier disk (disk.tryDirectoriesWithin (some start) depth name).1 := by
  induction depth generalizing name with
  | zero =>
      exact .refl sound charted
  | succ depth inductionHypothesis =>
      have above := inductionHypothesis (Path.trimmed (Path.parent name))
      have went := attempt disk start depth name
      generalize disk.tryDirectoriesWithin (some start) (depth + 1) name = result at went
      cases went with
      | made next created =>
          obtain ⟨place, awaits, rfl⟩ := awaits_of_createDirectory created
          obtain ⟨_, above, step, id, rfl, parent⟩ := awaits.vacant
          exact (Roomier.refl sound charted).addDirectory parent
      | present | stuck =>
          exact .refl sound charted
      | stuckAbove left error lacks some apart left =>
          rw [left] at above
          exact above
      | madeBelow between next earlier some apart created =>
          rw [earlier] at above
          obtain ⟨place, awaits, rfl⟩ := awaits_of_createDirectory created
          obtain ⟨_, _, step, id, rfl, parent⟩ := awaits.vacant
          exact above.addDirectory parent
      | presentBelow between earlier | stuckBelow between error lacks earlier =>
          rw [earlier] at above
          exact above

end Roomier

/-- A directory that could be made with those above it is there, and nothing but directories was
added. -/
theorem enters_of_createDirectories
    (sound : disk.Sound)
    (charted : disk.Charted)
    (named : name ≠ [])
    (made : disk.createDirectories (some start) name = .ok next) :
    Roomier disk next ∧ ∃ home, next.Enters start name home := by
  unfold createDirectories tryDirectories at made
  rw [if_neg (by simpa using named)] at made
  have roomier := Roomier.of_tryDirectoriesWithin sound charted start (name.length + 1) name
  have went := attempt disk start name.length name
  generalize disk.tryDirectoriesWithin (some start) (name.length + 1) name = result
    at made roomier went
  have entered {disk next : Disk} (created : disk.createDirectory (some start) name = .ok next) :
      ∃ home, next.Enters start name home := by
    obtain ⟨home, awaits, rfl⟩ := awaits_of_createDirectory created
    have grows := Grows.addDirectory disk awaits.vacant.1
    have isThere : (disk.addDirectory home).node? home = some (.directory disk.fresh) := by
      rw [node?_addDirectory disk awaits.ne_nil, if_pos rfl]
    exact ⟨home, (awaits.leads grows.kept isThere).enters⟩
  have found {disk : Disk} (isThere : disk.isDirectory (some start) name = true) :
      ∃ home, disk.Enters start name home := by
    obtain ⟨home, id, found⟩ := isDirectory_eq_true.1 isThere
    exact ⟨home, enters_of_find found⟩
  cases went with
  | made next created | madeBelow between next earlier some apart created =>
      cases made
      exact ⟨roomier, entered created⟩
  | present isThere | presentBelow between earlier some apart isThere =>
      cases made
      exact ⟨roomier, found isThere⟩
  | stuck | stuckAbove | stuckBelow =>
      cases made

/-- A name leads to one directory only. -/
theorem Enters.eq
    {other : Path}
    (enters : disk.Enters start name home)
    (again : disk.Enters start name other) :
    other = home := by
  obtain ⟨_, walks⟩ := enters
  obtain ⟨_, walksAgain⟩ := again
  rw [walks] at walksAgain
  cases walksAgain
  rfl

/-- A disk on which the file under a name in a directory holds what it should, which may have been
made for it. -/
structure Fills
    (path : Path)
    (id : Nat)
    (contents : Content → Prop)
    (before after : Disk) :
    Prop where
  node : after.node? path = some (.file id)
  old : before.node? path = some (.file id) ∨ before.node? path = none ∧ id = before.fresh
  nodes : ∀ other, other ≠ path → after.node? other = before.node? other
  holds : ∃ file, after.file? id = some file ∧ contents file.content
  files : ∀ other, other ≠ id → after.file? other = before.file? other
  sound : after.Sound
  charted : after.Charted
  fresh : before.fresh ≤ after.fresh

/-- A path at which a file stands that holds some bytes. -/
def Holds (disk : Disk) (path : Path) (bytes : Bytes) : Prop :=
  ∃ id file, disk.node? path = some (.file id) ∧ disk.file? id = some file ∧
    file.content = .bytes bytes

namespace Fills

variable {path : Path} {contents : Content → Prop}

/-- A file can be made in a directory where nothing stands. -/
theorem of_addFile
    (sound : disk.Sound)
    (charted : disk.Charted)
    (directory : disk.node? home = some (.directory id))
    (vacant : disk.node? (home ++ [child]) = none)
    {file : File}
    (holds : contents file.content) :
    Fills (home ++ [child]) disk.fresh contents disk (disk.addFile (home ++ [child]) file).2 := by
  have named : home ++ [child] ≠ [] := by
    simp
  have gains := gains_addFile disk named file
  exact
    { node := (gains.nodes _).trans (if_pos rfl)
      old := .inr ⟨vacant, rfl⟩
      nodes := fun other apart => (gains.nodes other).trans (if_neg apart)
      holds := ⟨_, (gains.files _).trans (if_pos rfl), holds⟩
      files := fun other apart => (gains.files other).trans (if_neg apart)
      sound := sound.addFile directory vacant file
      charted := charted.addFile named file
      fresh := Nat.le_succ _ }

/-- A file holds what it is changed to hold. -/
theorem updateFile
    {others : Content → Prop}
    (fills : Fills path id contents before after)
    {change : File → File}
    (gives : ∀ file, contents file.content → others (change file).content) :
    Fills path id others before (after.updateFile id change) where
  node := fills.node
  old := fills.old
  nodes := fills.nodes
  holds := by
    obtain ⟨file, found, holds⟩ := fills.holds
    refine ⟨change file, ?_, gives file holds⟩
    rw [file?_updateFile, if_pos rfl, found]
    rfl
  files other apart := by
    rw [file?_updateFile, if_neg apart]
    exact fills.files other apart
  sound := fills.sound.congr (fun _ => rfl) (Nat.le_refl _)
  charted := fills.charted.updateFile id change
  fresh := fills.fresh

/-- A file that is emptied holds nothing, unless it is a device. -/
theorem emptied
    (fills : Fills path id contents before after)
    (solid : ¬contents .void)
    (time : Nat) :
    Fills path id (· = .bytes []) before (after.updateFile id (File.emptied time)) := by
  refine fills.updateFile fun file holds => ?_
  unfold File.emptied
  cases content : file.content with
  | void =>
      rw [content] at holds
      exact absurd holds solid
  | bytes | program =>
      rfl

/-- All that stood anywhere still stands there. -/
theorem kept
    (fills : Fills path id contents before after)
    (other : Path)
    (node : Node)
    (found : before.node? other = some node) :
    after.node? other = some node := by
  by_cases here : other = path
  · subst here
    rcases fills.old with old | ⟨vacant, _⟩
    · rw [fills.node, ← old, found]
    · rw [vacant] at found
      cases found
  · rw [fills.nodes other here, found]

/-- The number of a file that stands elsewhere below a place without links is another one. -/
theorem ne_of_node?
    (fills : Fills (home ++ [child]) id contents before after)
    (sound : before.Sound)
    (linkless : before.Linkless home)
    {rest : Path}
    {other : Nat}
    (apart : rest ≠ [child])
    (found : before.node? (home ++ rest) = some (.file other)) :
    other ≠ id := by
  rintro rfl
  rcases fills.old with old | ⟨_, rfl⟩
  · exact apart (linkless.single rest [child] other found old)
  · exact Nat.lt_irrefl _ (sound.numbered _ _ found)

/-- Other files below a place without links hold what they held. -/
theorem holds_of_ne
    (fills : Fills (home ++ [child]) id contents before after)
    (sound : before.Sound)
    (linkless : before.Linkless home)
    {rest : Path}
    {others : Bytes}
    (apart : rest ≠ [child])
    (holds : before.Holds (home ++ rest) others) :
    after.Holds (home ++ rest) others := by
  obtain ⟨other, file, found, isThere, content⟩ := holds
  refine ⟨other, file, fills.kept _ _ found, ?_, content⟩
  rw [fills.files other (fills.ne_of_node? sound linkless apart found)]
  exact isThere

/-- No link comes to stand where a file is filled. -/
theorem linkless
    (fills : Fills (home ++ [child]) id contents before after)
    (sound : before.Sound)
    (linkless : before.Linkless home) :
    after.Linkless home where
  plain rest target found := by
    by_cases here : home ++ rest = home ++ [child]
    · rw [here, fills.node] at found
      cases found
    · rw [fills.nodes _ here] at found
      exact linkless.plain rest target found
  single first second number one two := by
    by_cases hereOne : first = [child]
    · by_cases hereTwo : second = [child]
      · rw [hereOne, hereTwo]
      · rw [fills.nodes _ (by simpa using hereTwo)] at two
        have apart := fills.ne_of_node? sound linkless hereTwo two
        rw [hereOne, fills.node] at one
        cases one
        exact absurd rfl apart
    · rw [fills.nodes _ (by simpa using hereOne)] at one
      by_cases hereTwo : second = [child]
      · have apart := fills.ne_of_node? sound linkless hereOne one
        rw [hereTwo, fills.node] at two
        cases two
        exact absurd rfl apart
      · rw [fills.nodes _ (by simpa using hereTwo)] at two
        exact linkless.single first second number one two

/-- No device comes to stand where a file is filled that is none. -/
theorem ordinary
    (fills : Fills (home ++ [child]) id contents before after)
    (solid : ¬contents .void)
    (sound : before.Sound)
    (ordinary : before.Ordinary home) :
    after.Ordinary home where
  toLinkless := fills.linkless sound ordinary.toLinkless
  deviceless rest number found := by
    by_cases here : rest = [child]
    · rw [here, fills.node] at found
      cases found
      obtain ⟨file, isThere, holds⟩ := fills.holds
      exact ⟨file, isThere, fun void => solid (void ▸ holds)⟩
    · rw [fills.nodes _ (by simpa using here)] at found
      rw [fills.files _ (fills.ne_of_node? sound ordinary.toLinkless here found)]
      exact ordinary.deviceless rest number found

end Fills

/-- A file that is obtained under a name in an ordinary directory is the one that stands
there, or a new one. -/
theorem Enters.fills_of_obtainFile
    (enters : disk.Enters start name home)
    (sound : disk.Sound)
    (charted : disk.Charted)
    (ordinary : disk.Ordinary home)
    (plain : Path.IsPlain child)
    (short : child.length ≤ Path.stepLimit)
    {time : Nat}
    (obtained : disk.obtainFile (some start) time (Path.join name child) = .ok (id, next)) :
    Fills (home ++ [child]) id (· ≠ .void) disk next := by
  obtain ⟨number, directory⟩ := enters.node?_eq
  obtain ⟨left, onward⟩ := enters.locate_join plain
  unfold obtainFile at obtained
  by_cases usable : Path.IsUsable (Path.join name child)
  · rw [onward disk (fun _ _ found => found) usable] at obtained
    cases found : disk.node? (home ++ [child]) with
    | none =>
        rw [walk_vacant directory plain.ne_here plain.ne_above short found] at obtained
        cases obtained
        exact .of_addFile sound charted directory found nofun
    | some node =>
        have solid : ∀ target, node ≠ .link target := by
          rintro target rfl
          exact ordinary.plain [child] target found
        rw [walk_descend directory plain.ne_here plain.ne_above short found solid, walk_nil,
          found] at obtained
        cases node with
        | link target =>
            exact absurd rfl (solid target)
        | directory other =>
            cases obtained
        | file other =>
            cases obtained
            exact
              { node := found
                old := .inl found
                nodes := fun _ _ => rfl
                holds := ordinary.deviceless [child] id found
                files := fun _ _ => rfl
                sound := sound
                charted := charted
                fresh := Nat.le_refl _ }
  · obtain ⟨error, nowhere⟩ := locate_of_not_isUsable usable
    rw [nowhere] at obtained
    simp only at obtained
    split at obtained <;> cases obtained

/-- Only under names that are taken a file is obtained. -/
theorem isUsable_of_obtainFile
    {start? : Option Path}
    {time : Nat}
    {obtained : Nat × Disk}
    (obtains : disk.obtainFile start? time name = .ok obtained) :
    Path.IsUsable name := by
  by_cases usable : Path.IsUsable name
  · exact usable
  · obtain ⟨error, nowhere⟩ := obtainFile_of_not_isUsable usable
    rw [nowhere] at obtains
    cases obtains

/-- What stands under a plain name in a directory is found from there. -/
theorem find_of_isPlain
    {node : Node}
    (directory : ∃ number, disk.node? home = some (.directory number))
    (plain : Path.IsPlain child)
    (short : child.length ≤ Path.stepLimit)
    (found : disk.node? (home ++ [child]) = some node)
    (solid : ∀ target, node ≠ .link target) :
    disk.find (some home) true child = .ok (home ++ [child], node) := by
  obtain ⟨number, directory⟩ := directory
  have usable : Path.IsUsable child :=
    ⟨plain.named, Nat.lt_of_le_of_lt short (by decide)⟩
  have steps : Path.steps child = [child] := by
    have none : Path.names [] = [] := rfl
    simpa [Path.join, none] using plain.steps_join []
  rw [find_eq_ok, locate_of_isUsable disk home true usable, steps]
  unfold Path.origin
  rw [plain.not_isAbsolute, if_neg nofun,
    walk_descend directory plain.ne_here plain.ne_above short found solid, walk_nil, found]

/-- What stands in a directory is found under its name there. -/
theorem Enters.find_join
    (enters : disk.Enters start name home)
    {node : Node}
    (plain : Path.IsPlain child)
    (short : child.length ≤ Path.stepLimit)
    (usable : Path.IsUsable (Path.join name child))
    (found : disk.node? (home ++ [child]) = some node)
    (solid : ∀ target, node ≠ .link target) :
    disk.find (some start) true (Path.join name child) = .ok (home ++ [child], node) := by
  obtain ⟨number, directory⟩ := enters.node?_eq
  obtain ⟨left, onward⟩ := enters.locate_join plain
  rw [find_eq_ok, onward disk (fun _ _ found => found) usable,
    walk_descend directory plain.ne_here plain.ne_above short found solid, walk_nil, found]

/-- A file that is found is read. -/
theorem read_of_find
    {start? : Option Path}
    {path : Path}
    {file : File}
    (found : disk.find start? true name = .ok (path, .file id))
    (isThere : disk.file? id = some file)
    (holds : file.content = .bytes bytes) :
    disk.read start? name = .ok bytes := by
  unfold read findFile
  simp only [found, isThere, File.bytes, holds]

end Disk

namespace Machine

open Disk

variable {machine next : Machine} {host : Host} {home : Path} {name child bytes : Bytes}

/-- A name that a host may use. -/
def Allows (name : Bytes) : Prop :=
  name.contains 0 = false ∧ Path.IsUsable name

/-- A host reads a file that is found under a name that it may use. -/
theorem fileBytes_eq
    (allows : Allows name)
    {path : Path}
    {id : Nat}
    {file : File}
    (found : machine.disk.find (some host.directory) true name = .ok (path, .file id))
    (isThere : machine.disk.file? id = some file)
    (holds : file.content = .bytes bytes) :
    machine.fileBytes host name = .ok bytes := by
  unfold fileBytes
  rw [withName_of_not_contains allows.1, read_of_find found isThere holds]
  rfl

/-- A file that a host could fill in an ordinary directory is there and holds what was put
into it. -/
theorem fills_of_fillFile
    (enters : machine.disk.Enters host.directory name home)
    (sound : machine.disk.Sound)
    (charted : machine.disk.Charted)
    (ordinary : machine.disk.Ordinary home)
    (plain : Path.IsPlain child)
    (short : child.length ≤ Path.stepLimit)
    (filled : machine.fillFile host (Path.join name child) bytes = .ok next) :
    Allows (Path.join name child) ∧ ∃ id disk,
      Fills (home ++ [child]) id (· = .bytes bytes) machine.disk disk ∧
        next = machine.withDisk disk := by
  obtain ⟨whole, disk, written, rfl⟩ := fillFile_eq_ok.1 filled
  unfold write at written
  cases obtained : machine.disk.obtainFile (some host.directory) machine.seconds
      (Path.join name child) with
  | error error =>
      rw [obtained] at written
      cases written
  | ok made =>
      obtain ⟨id, between⟩ := made
      rw [obtained] at written
      cases written
      have fills := enters.fills_of_obtainFile sound charted ordinary plain short obtained
      have empties := fills.emptied (absurd rfl) machine.seconds
      have full : Fills (home ++ [child]) id (· = .bytes bytes) machine.disk
          ((between.updateFile id (File.emptied machine.seconds)).updateFile id
            (File.filledAt 0 machine.seconds bytes)) :=
        empties.updateFile fun file holds => by simp [File.filledAt, File.bytes, holds]
      exact ⟨⟨whole, isUsable_of_obtainFile obtained⟩, id, _, full, rfl⟩

/-- A file that a host could empty and open in an ordinary directory is there without a byte
in it, and open where it begins. -/
theorem fills_of_openEmptied
    {output : Nat}
    (enters : machine.disk.Enters host.directory name home)
    (sound : machine.disk.Sound)
    (charted : machine.disk.Charted)
    (ordinary : machine.disk.Ordinary home)
    (plain : Path.IsPlain child)
    (short : child.length ≤ Path.stepLimit)
    (opened : machine.openEmptied host (Path.join name child) = .ok (output, next)) :
    Allows (Path.join name child) ∧ ∃ id disk,
      Fills (home ++ [child]) id (· = .bytes []) machine.disk disk ∧
        (output, next) = (machine.withDisk disk).addOpenFile (.file id) .truncate := by
  obtain ⟨whole, opens⟩ := withName_eq_ok.1 opened
  unfold openName at opens
  cases obtained : machine.disk.obtainFile (some host.directory) machine.seconds
      (Path.join name child) with
  | error error =>
      simp only [obtained] at opens
      cases opens
  | ok made =>
      obtain ⟨id, between⟩ := made
      simp only [obtained, if_true] at opens
      have fills := enters.fills_of_obtainFile sound charted ordinary plain short obtained
      injection opens with same
      exact ⟨⟨whole, isUsable_of_obtainFile obtained⟩, id, _,
        fills.emptied (absurd rfl) machine.seconds, same.symm⟩

end Machine

end CompilePlayground.Posix
