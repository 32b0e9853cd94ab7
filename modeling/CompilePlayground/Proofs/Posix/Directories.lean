import CompilePlayground.Proofs.Posix.Locate

namespace CompilePlayground.Posix

/-!
# Directories that are made with those above them

Making a directory together with those above it that are missing adds directories where the
names above lead, and the directory itself. When something goes wrong on the way, those that
were made before stay, and the name leads nowhere.
-/

namespace Path

/-- A name of a place above the one that another name leads to. -/
inductive IsAbove : Bytes → Bytes → Prop where
  | parent
      (name : Bytes) :
      IsAbove (trimmed (parent name)) name
  | further
      {ancestor name : Bytes}
      (above : IsAbove ancestor (trimmed (parent name))) :
      IsAbove ancestor name

end Path

namespace Disk

variable {disk before after next : Disk} {start : Path} {name : Bytes} {place : Path}

/-- A disk on which directories were made, each where one of some names leads. -/
structure Raised
    (start : Path)
    (named : Bytes → Prop)
    (before after : Disk) :
    Prop where
  grows : Grows before after
  files : ∀ id, after.file? id = before.file? id
  sound : after.Sound
  added : ∀ path node, before.node? path = none → after.node? path = some node →
    ∃ name, named name ∧ after.Enters start name path

namespace Raised

variable {named : Bytes → Prop}

theorem refl (sound : disk.Sound) : Raised start named disk disk where
  grows := .refl disk
  files _ := rfl
  sound := sound
  added path node vacant found := by
    rw [vacant] at found
    cases found

/-- Directories are made after others. -/
theorem trans
    {first second third : Disk}
    (earlier : Raised start named first second)
    (later : Raised start named second third) :
    Raised start named first third where
  grows := earlier.grows.trans later.grows
  files id := (later.files id).trans (earlier.files id)
  sound := later.sound
  added path node vacant found := by
    cases between : second.node? path with
    | none =>
        exact later.added path node between found
    | some node =>
        obtain ⟨name, isNamed, enters⟩ := earlier.added path node vacant between
        exact ⟨name, isNamed, enters.of_kept later.grows.kept⟩

/-- Directories are made where more names may lead. -/
theorem mono
    {others : Bytes → Prop}
    (raised : Raised start named before after)
    (more : ∀ name, named name → others name) :
    Raised start others before after where
  grows := raised.grows
  files := raised.files
  sound := raised.sound
  added path node vacant found := by
    obtain ⟨name, isNamed, enters⟩ := raised.added path node vacant found
    exact ⟨name, more name isNamed, enters⟩

/-- Directories that were made for the name above were made above. -/
theorem ofParent
    (raised : Raised start
      (fun other => other = Path.trimmed (Path.parent name) ∨
        Path.IsAbove other (Path.trimmed (Path.parent name))) before after) :
    Raised start (fun other => Path.IsAbove other name) before after := by
  apply raised.mono
  rintro other (rfl | higher)
  · exact .parent name
  · exact .further higher

/-- A directory is made where a name awaits it. -/
theorem addDirectory
    (sound : disk.Sound)
    (awaits : disk.Awaits start name place)
    (isNamed : named name) :
    Raised start named disk (disk.addDirectory place) := by
  obtain ⟨vacant, above, step, id, rfl, directory⟩ := awaits.vacant
  have grows := Grows.addDirectory disk vacant
  refine ⟨grows, fun _ => rfl, sound.addDirectory directory, ?_⟩
  intro path node absent found
  rw [node?_addDirectory disk (by simp)] at found
  split at found
  next here =>
    subst here
    have made : (disk.addDirectory (above ++ [step])).node? (above ++ [step]) =
        some (.directory disk.fresh) := by
      rw [node?_addDirectory disk (by simp), if_pos rfl]
    exact ⟨name, isNamed, (awaits.leads grows.kept made).enters⟩
  next =>
    rw [absent] at found
    cases found

end Raised

/-- A directory that was made is one that its name awaited. -/
theorem awaits_of_createDirectory
    (made : disk.createDirectory (some start) name = .ok next) :
    ∃ place, disk.Awaits start name place ∧ next = disk.addDirectory place := by
  unfold createDirectory at made
  cases located : disk.locate (some start) false (Path.trimmed name) with
  | error error =>
      rw [located] at made
      cases made
  | ok found =>
      rw [located] at made
      cases found with
      | existing =>
          cases made
      | vacant place =>
          cases made
          rw [locate_of_isUsable disk start false (isUsable_of_locate located),
            Path.steps_trimmed, Path.origin_trimmed] at located
          refine ⟨place, ?_, rfl⟩
          intro follow
          cases follow with
          | false =>
              exact located
          | true =>
              exact walk_true_of_walk located nofun

/-- Whether a name leads to a directory. -/
theorem isDirectory_eq_true
    {start? : Option Path} :
    disk.isDirectory start? name = true ↔
      ∃ place id, disk.find start? true name = .ok (place, .directory id) := by
  unfold isDirectory
  split
  next place id found =>
    simp only [true_iff]
    exact ⟨place, id, found⟩
  next other =>
    simp only [Bool.false_eq_true, false_iff]
    rintro ⟨place, id, found⟩
    exact other place id found

/-- Where a name leads anywhere, the name above it leads to a directory. -/
theorem isDirectory_parent
    {node : Node}
    (found : disk.find (some start) true name = .ok (place, node))
    (some : Path.parent name ≠ [])
    (apart : Path.parent name ≠ Path.trimmed name) :
    disk.isDirectory (.some start) (Path.trimmed (Path.parent name)) = true := by
  have located := find_eq_ok.1 found
  have usable := isUsable_of_locate located
  rw [locate_of_isUsable disk start true usable] at located
  have split : ∃ rest, rest ≠ [] ∧
      Path.steps name = Path.names (Path.trimmed (Path.parent name)) ++ rest := by
    rcases Path.steps_cases name with same | ⟨_, same⟩
    · exact ⟨[Path.lastStep (Path.trimmed name)], by simp,
        same.trans (Path.names_eq_snoc apart)⟩
    · refine ⟨[Path.lastStep (Path.trimmed name), Path.here], by simp, ?_⟩
      rw [same, Path.names_eq_snoc apart]
      simp
  obtain ⟨rest, more, shape⟩ := split
  rw [shape] at located
  obtain ⟨above, id, walks⟩ := directory_of_walk_append more located
  have enters : disk.Enters start (Path.trimmed (Path.parent name)) above := by
    refine ⟨id, ?_⟩
    unfold Path.origin at walks ⊢
    rw [Path.isAbsolute_parent some]
    exact walks
  have shorter := Path.length_parent_lt apart
  obtain ⟨number, isThere⟩ :=
    enters.find_eq ⟨by simpa using some, Nat.lt_trans shorter usable.2⟩
  exact isDirectory_eq_true.2 ⟨above, number, isThere⟩

/-- How an attempt to make a directory with those above it went. -/
inductive Attempt
    (disk : Disk)
    (start : Path)
    (depth : Nat)
    (name : Bytes) :
    Disk × Reply Unit → Prop where
  | made
      (next : Disk)
      (created : disk.createDirectory (some start) name = .ok next) :
      Attempt disk start depth name (next, .ok ())
  | present
      (isThere : disk.isDirectory (some start) name = true) :
      Attempt disk start depth name (disk, .ok ())
  | stuck
      (error : SystemError) :
      Attempt disk start depth name (disk, .error error)
  | stuckAbove
      (left : Disk)
      (error : SystemError)
      (lacks : disk.createDirectory (.some start) name = .error .notFound)
      (some : Path.parent name ≠ [])
      (apart : Path.parent name ≠ Path.trimmed name)
      (above : disk.tryDirectoriesWithin (.some start) depth
        (Path.trimmed (Path.parent name)) = (left, .error error)) :
      Attempt disk start depth name (left, .error error)
  | madeBelow
      (between next : Disk)
      (above : disk.tryDirectoriesWithin (.some start) depth
        (Path.trimmed (Path.parent name)) = (between, .ok ()))
      (some : Path.parent name ≠ [])
      (apart : Path.parent name ≠ Path.trimmed name)
      (created : between.createDirectory (.some start) name = .ok next) :
      Attempt disk start depth name (next, .ok ())
  | presentBelow
      (between : Disk)
      (above : disk.tryDirectoriesWithin (.some start) depth
        (Path.trimmed (Path.parent name)) = (between, .ok ()))
      (some : Path.parent name ≠ [])
      (apart : Path.parent name ≠ Path.trimmed name)
      (isThere : between.isDirectory (.some start) name = true) :
      Attempt disk start depth name (between, .ok ())
  | stuckBelow
      (between : Disk)
      (error : SystemError)
      (lacks : disk.createDirectory (.some start) name = .error .notFound)
      (above : disk.tryDirectoriesWithin (.some start) depth
        (Path.trimmed (Path.parent name)) = (between, .ok ()))
      (some : Path.parent name ≠ [])
      (apart : Path.parent name ≠ Path.trimmed name) :
      Attempt disk start depth name (between, .error error)

/-- Where a name leads to a directory, no directory can be made, and not for lack of one above. -/
theorem createDirectory_of_isDirectory
    (isThere : disk.isDirectory (some start) name = true) :
    disk.createDirectory (some start) name = .error .alreadyExists := by
  obtain ⟨place, id, found⟩ := isDirectory_eq_true.1 isThere
  have usable := isUsable_of_locate (find_eq_ok.1 found)
  obtain ⟨number, walks⟩ := enters_of_find found
  obtain ⟨other, node, walked⟩ := walk_false_of_walk walks
  have located : disk.locate (some start) false (Path.trimmed name) =
      .ok (.existing other node) := by
    rw [locate_of_isUsable disk start false usable.trimmed, Path.steps_trimmed,
      Path.origin_trimmed, walked]
  unfold createDirectory
  rw [located]

/-- A directory that is there is not made again. -/
theorem createDirectories_of_isDirectory
    (isThere : disk.isDirectory (some start) name = true) :
    disk.createDirectories (some start) name = .ok disk := by
  unfold createDirectories tryDirectories
  split
  next made =>
    split at made
    · cases made
      rfl
    · simp only [tryDirectoriesWithin, createDirectory_of_isDirectory isThere, isThere] at made
      cases made
      rfl
  next failed =>
    split at failed
    · cases failed
    · simp only [tryDirectoriesWithin, createDirectory_of_isDirectory isThere, isThere] at failed
      cases failed

/-- An attempt goes in one of these ways. -/
theorem attempt (disk : Disk) (start : Path) (depth : Nat) (name : Bytes) :
    Attempt disk start depth name
      (disk.tryDirectoriesWithin (some start) (depth + 1) name) := by
  unfold tryDirectoriesWithin
  cases created : disk.createDirectory (some start) name with
  | ok next =>
      exact .made next created
  | error error =>
      simp only
      by_cases lacks : error = .notFound
      · subst lacks
        rw [if_pos rfl]
        split
        · exact .stuck _
        next goesOn =>
          rw [Bool.or_eq_true, List.isEmpty_iff, decide_eq_true_eq, not_or] at goesOn
          obtain ⟨more, apart⟩ := goesOn
          split
          next left cause above =>
            exact .stuckAbove left cause created more apart above
          next between above =>
            cases made : between.createDirectory (some start) name with
            | ok next =>
                exact .madeBelow between next above more apart made
            | error cause =>
                simp only
                by_cases isThere : between.isDirectory (some start) name = true
                · rw [if_pos isThere]
                  exact .presentBelow between above more apart isThere
                · rw [if_neg isThere]
                  exact .stuckBelow between cause created above more apart
      · rw [if_neg lacks]
        by_cases isThere : disk.isDirectory (some start) name = true
        · rw [if_pos isThere]
          exact .present isThere
        · rw [if_neg isThere]
          exact .stuck error

/-- Whatever comes of an attempt, directories were made where the name and those above it
lead. -/
theorem raised_tryDirectoriesWithin
    (sound : disk.Sound)
    (start : Path)
    (depth : Nat)
    (name : Bytes) :
    Raised start (fun other => other = name ∨ Path.IsAbove other name) disk
      (disk.tryDirectoriesWithin (some start) depth name).1 := by
  induction depth generalizing name with
  | zero =>
      exact .refl sound
  | succ depth inductionHypothesis =>
      have above :
          Raised start (fun other => Path.IsAbove other name) disk
            (disk.tryDirectoriesWithin (some start) depth
              (Path.trimmed (Path.parent name))).1 :=
        (inductionHypothesis (Path.trimmed (Path.parent name))).ofParent
      have went := attempt disk start depth name
      generalize disk.tryDirectoriesWithin (some start) (depth + 1) name = result at went
      cases went with
      | made next created =>
          obtain ⟨place, awaits, rfl⟩ := awaits_of_createDirectory created
          exact .addDirectory sound awaits (.inl rfl)
      | present | stuck =>
          exact .refl sound
      | stuckAbove left error lacks some apart left =>
          rw [left] at above
          exact above.mono fun _ => .inr
      | madeBelow between next earlier some apart created =>
          rw [earlier] at above
          obtain ⟨place, awaits, rfl⟩ := awaits_of_createDirectory created
          exact (above.mono fun _ => .inr).trans
            (.addDirectory above.sound awaits (.inl rfl))
      | presentBelow between earlier | stuckBelow between error lacks earlier =>
          rw [earlier] at above
          exact above.mono fun _ => .inr

/-- More depth than a name has steps makes no difference. -/
theorem tryDirectoriesWithin_eq
    {first second : Nat}
    (firstEnough : name.length < first)
    (secondEnough : name.length < second) :
    disk.tryDirectoriesWithin (some start) first name =
      disk.tryDirectoriesWithin (some start) second name := by
  induction first generalizing second name with
  | zero =>
      exact absurd firstEnough (Nat.not_lt_zero _)
  | succ first inductionHypothesis =>
      cases second with
      | zero =>
          exact absurd secondEnough (Nat.not_lt_zero _)
      | succ second =>
          have above (apart : Path.parent name ≠ Path.trimmed name) :
              disk.tryDirectoriesWithin (some start) first
                  (Path.trimmed (Path.parent name)) =
                disk.tryDirectoriesWithin (some start) second
                  (Path.trimmed (Path.parent name)) := by
            have shorter := Path.length_parent_lt apart
            exact inductionHypothesis (by omega) (by omega)
          unfold tryDirectoriesWithin
          by_cases apart : Path.parent name = Path.trimmed name
          · simp [apart]
          · simp only [above apart]

/-- The directories above are those that are made first. -/
theorem createDirectories_parent
    {between : Disk}
    {depth : Nat}
    (some : Path.parent name ≠ [])
    (enough : (Path.trimmed (Path.parent name)).length < depth) :
    disk.createDirectories (.some start) (Path.trimmed (Path.parent name)) = .ok between ↔
      disk.tryDirectoriesWithin (.some start) depth (Path.trimmed (Path.parent name)) =
        (between, .ok ()) := by
  unfold createDirectories tryDirectories
  rw [if_neg (by simpa using some),
    tryDirectoriesWithin_eq (Nat.lt_succ_self _) enough]
  rcases disk.tryDirectoriesWithin (.some start) depth
    (Path.trimmed (Path.parent name)) with ⟨left, _ | _⟩ <;> simp

/-- A directory that is awaited can be made. -/
theorem Awaits.createDirectories_eq
    (awaits : disk.Awaits start name place)
    (named : name ≠ [])
    (usable : Path.IsUsable (Path.trimmed name)) :
    disk.createDirectories (some start) name = .ok (disk.addDirectory place) := by
  have made : disk.createDirectory (some start) name = .ok (disk.addDirectory place) := by
    unfold createDirectory
    rw [locate_of_isUsable disk start false usable, Path.steps_trimmed, Path.origin_trimmed,
      awaits false]
  unfold createDirectories tryDirectories tryDirectoriesWithin
  rw [if_neg (by simpa using named), made]

/-- A directory whose name is too long cannot be made, whatever is there, nor any above it. -/
theorem tryDirectories_of_not_isUsable
    (named : name ≠ [])
    (unusable : ¬Path.IsUsable (Path.trimmed name)) :
    ∃ error, ∀ (disk : Disk) (start? : Option Path),
      disk.tryDirectories start? name = (disk, .error error) := by
  have some : Path.trimmed name ≠ [] := by
    simpa using named
  have tooLong : Path.nameLimit ≤ (Path.trimmed name).length :=
    Nat.le_of_not_lt fun short => unusable ⟨some, short⟩
  have stillLonger := Nat.le_trans tooLong (Path.length_trimmed_le name)
  refine ⟨.nameTooLong, fun disk start? => ?_⟩
  have refused : disk.createDirectory start? name = .error .nameTooLong := by
    unfold createDirectory locate
    rw [if_neg (by simpa using some), if_pos tooLong]
  have nowhere : disk.isDirectory start? name = false := by
    unfold isDirectory find locate
    rw [if_neg (by simpa using named), if_pos stillLonger]
  unfold tryDirectories tryDirectoriesWithin
  rw [if_neg (by simpa using named), refused]
  simp only [if_neg (show SystemError.nameTooLong ≠ .notFound by decide), nowhere]
  rfl

/-- What is left of making a directory with those above it when the system refuses one of the
directories, for whatever reason. -/
inductive Interrupted
    (disk : Disk)
    (start : Path) :
    Bytes → Disk → Prop where
  | first
      (name : Bytes) :
      Interrupted disk start name disk
  | above
      {name : Bytes}
      {left : Disk}
      (lacks : disk.createDirectory (some start) name = .error .notFound)
      (some : Path.parent name ≠ [])
      (apart : Path.parent name ≠ Path.trimmed name)
      (interrupted : Interrupted disk start (Path.trimmed (Path.parent name)) left) :
      Interrupted disk start name left
  | second
      {name : Bytes}
      {between : Disk}
      (lacks : disk.createDirectory (.some start) name = .error .notFound)
      (some : Path.parent name ≠ [])
      (apart : Path.parent name ≠ Path.trimmed name)
      (made : disk.createDirectories (.some start) (Path.trimmed (Path.parent name)) =
        .ok between) :
      Interrupted disk start name between

namespace Interrupted

/-- What is left are directories above. -/
theorem raised
    {left : Disk}
    (interrupted : Interrupted disk start name left)
    (sound : disk.Sound) :
    Raised start (fun other => Path.IsAbove other name) disk left := by
  induction interrupted with
  | first name =>
      exact .refl sound
  | above _ _ _ _ inductionHypothesis =>
      exact inductionHypothesis.mono fun _ => .further
  | @second name between _ some apart made =>
      have raised := raised_tryDirectoriesWithin sound start name.length
        (Path.trimmed (Path.parent name))
      rw [(createDirectories_parent some (Path.length_parent_lt apart)).1 made] at raised
      exact raised.ofParent

/-- Once the directories above are there, what is left is what is made of the directory itself, or
the directory is not there. -/
theorem made_or_missing_of_made
    {between : Disk}
    (lacks : disk.createDirectory (.some start) name = .error .notFound)
    (some : Path.parent name ≠ [])
    (apart : Path.parent name ≠ Path.trimmed name)
    (made : disk.createDirectories (.some start) (Path.trimmed (Path.parent name)) =
      .ok between) :
    disk.createDirectories (.some start) name = .ok between ∨
      between.isDirectory (.some start) name = false := by
  cases isThere : between.isDirectory (.some start) name with
  | false =>
      exact .inr rfl
  | true =>
      have named : name ≠ [] := by
        rintro rfl
        exact some rfl
      left
      unfold createDirectories tryDirectories
      rw [if_neg (by simpa using named)]
      unfold tryDirectoriesWithin
      rw [lacks]
      simp only [if_true]
      rw [if_neg (by simp [some, apart]), (createDirectories_parent some (Path.length_parent_lt apart)).1 made]
      simp only [createDirectory_of_isDirectory isThere, isThere, if_true]

/-- What is left is the disk as it was, or as it is when the directory is made, or the directory
is not there. -/
theorem made_or_missing
    {left : Disk}
    (interrupted : Interrupted disk start name left) :
    left = disk ∨ disk.createDirectories (some start) name = .ok left ∨
      left.isDirectory (some start) name = false := by
  induction interrupted with
  | first name =>
      exact .inl rfl
  | second lacks some apart made =>
      exact .inr (made_or_missing_of_made lacks some apart made)
  | @above name left lacks some apart _ inductionHypothesis =>
      rcases inductionHypothesis with same | made | missing
      · exact .inl same
      · exact .inr (made_or_missing_of_made lacks some apart made)
      · right
        right
        rw [← Bool.not_eq_true]
        intro isThere
        obtain ⟨place, id, found⟩ := isDirectory_eq_true.1 isThere
        rw [isDirectory_parent found some apart] at missing
        cases missing

/-- When an attempt fails, the system has refused one of the directories. -/
theorem of_error
    {depth : Nat}
    {left : Disk}
    {error : SystemError}
    (enough : name.length < depth)
    (failed : disk.tryDirectoriesWithin (some start) depth name = (left, .error error)) :
    Interrupted disk start name left := by
  induction depth generalizing name with
  | zero =>
      exact absurd enough (Nat.not_lt_zero _)
  | succ depth inductionHypothesis =>
      have went := attempt disk start depth name
      rw [failed] at went
      cases went with
      | stuck =>
          exact .first name
      | stuckAbove _ _ lacks some apart above =>
          have shorter := Path.length_parent_lt apart
          exact .above lacks some apart (inductionHypothesis (by omega) above)
      | stuckBelow _ _ lacks above some apart =>
          have shorter := Path.length_parent_lt apart
          exact .second lacks some apart
            ((createDirectories_parent some (by omega)).2 above)

/-- When a directory cannot be made, the system has refused it or one of those above it. -/
theorem of_tryDirectories
    {left : Disk}
    {error : SystemError}
    (failed : disk.tryDirectories (some start) name = (left, .error error)) :
    Interrupted disk start name left := by
  unfold tryDirectories at failed
  split at failed
  · cases failed
  · exact of_error (Nat.lt_succ_self _) failed

end Interrupted

/-- A name that leads to nothing, neither as things are nor once the missing directories above it
have been made. -/
def Unclaimed (disk : Disk) (start : Path) (name : Bytes) : Prop :=
  ∀ made, made = disk ∨
    disk.createDirectories (some start) (Path.trimmed (Path.parent name)) = .ok made →
      ∀ place node, made.find (some start) true name ≠ .ok (place, node)

namespace Unclaimed

/-- The name does not lead to a directory. -/
theorem isDirectory_eq_false
    (unclaimed : disk.Unclaimed start name)
    {made : Disk}
    (above : made = disk ∨
      disk.createDirectories (some start) (Path.trimmed (Path.parent name)) = .ok made) :
    made.isDirectory (some start) name = false := by
  rw [← Bool.not_eq_true, isDirectory_eq_true]
  rintro ⟨place, id, found⟩
  exact unclaimed made above place _ found

/-- A name that leads to nothing still does when its directory could not be made. -/
theorem not_found_of_interrupted
    {left : Disk}
    (unclaimed : disk.Unclaimed start name)
    (interrupted : Interrupted disk start name left)
    (place : Path)
    (node : Node) :
    left.find (some start) true name ≠ .ok (place, node) := by
  cases interrupted with
  | first =>
      exact unclaimed disk (.inl rfl) place node
  | second _ _ _ made =>
      exact unclaimed left (.inr made) place node
  | above _ some apart interrupted =>
      rcases interrupted.made_or_missing with rfl | made | missing
      · exact unclaimed left (.inl rfl) place node
      · exact unclaimed left (.inr made) place node
      · intro found
        rw [isDirectory_parent found some apart] at missing
        cases missing

/-- In a directory that is there, a name that leads to nothing is not claimed either once the
directories above it have been made. -/
theorem of_isDirectory
    (above : disk.isDirectory (some start) (Path.trimmed (Path.parent name)) = true)
    (nowhere : (disk.find (some start) true name).toOption = none) :
    disk.Unclaimed start name := by
  have same := createDirectories_of_isDirectory above
  rintro made here place node found
  have isDisk : made = disk := by
    rcases here with here | here
    · exact here
    · rw [same] at here
      cases here
      rfl
  rw [isDisk] at found
  rw [found] at nowhere
  cases nowhere

end Unclaimed

/-- What comes of making a directory whose name leads to nothing: it is made where nothing stood,
or one of the directories was refused. -/
inductive Making
    (disk : Disk)
    (start : Path)
    (name : Bytes) :
    Disk × Reply Unit → Prop where
  | made
      (above : Disk)
      (place : Path)
      (raised : Raised start (fun other => Path.IsAbove other name) disk above)
      (awaits : above.Awaits start name place) :
      Making disk start name (above.addDirectory place, .ok ())
  | failed
      (left : Disk)
      (error : SystemError)
      (interrupted : Interrupted disk start name left) :
      Making disk start name (left, .error error)

/-- A directory whose name leads to nothing is made where nothing stood, or not at all. -/
theorem Unclaimed.making
    (unclaimed : disk.Unclaimed start name)
    (sound : disk.Sound)
    (named : name ≠ []) :
    Making disk start name (disk.tryDirectories (some start) name) := by
  unfold tryDirectories
  rw [if_neg (by simpa using named)]
  have went := attempt disk start name.length name
  generalize outcome : disk.tryDirectoriesWithin (some start) (name.length + 1) name = result
  rw [outcome] at went
  cases went with
  | made next created =>
      obtain ⟨place, awaits, rfl⟩ := awaits_of_createDirectory created
      exact .made disk place (.refl sound) awaits
  | present isThere =>
      rw [unclaimed.isDirectory_eq_false (.inl rfl)] at isThere
      cases isThere
  | madeBelow between next earlier some apart created =>
      have above := raised_tryDirectoriesWithin sound start name.length
        (Path.trimmed (Path.parent name))
      rw [earlier] at above
      obtain ⟨place, awaits, rfl⟩ := awaits_of_createDirectory created
      exact .made between place above.ofParent awaits
  | presentBelow between earlier some apart isThere =>
      have first := (createDirectories_parent some (Path.length_parent_lt apart)).2 earlier
      rw [unclaimed.isDirectory_eq_false (.inr first)] at isThere
      cases isThere
  | stuck | stuckAbove | stuckBelow =>
      exact .failed _ _ (.of_error (Nat.lt_succ_self _) outcome)

end Disk

end CompilePlayground.Posix
