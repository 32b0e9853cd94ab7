import CompilePlayground.Proofs.Posix.Views

namespace CompilePlayground.Posix

/-!
# Trees of files

A `Tree` is all that stands below one directory, told without numbers. Planting it puts all of it
there in place of what there was.
-/

/-- All that stands below a directory: each thing stands in a directory of the tree, or in the one
that the tree is below, and no file is lost. -/
structure Tree where
  entries : List (Path × Item)
  named : ∀ entry ∈ entries, entry.1 ≠ []
  whole : ∀ entry ∈ entries, entry.2 ≠ .lost
  rooted : ∀ path step item, entries.lookup (path ++ [step]) = some item →
    path = [] ∨ entries.lookup path = some .directory

namespace Tree

/-- A tree with nothing in it. -/
def bare : Tree :=
  ⟨[], by simp, by simp, by simp⟩

/-- What can be seen of a tree from the directory that it is below. -/
def view (tree : Tree) : View :=
  fun rest => if rest = [] then some .directory else tree.entries.lookup rest

end Tree

namespace Disk

variable {disk before after : Disk} {place path other : Path} {item : Item}

/-- Put something at a path. -/
def put (disk : Disk) (path : Path) : Item → Disk
  | .directory => disk.addDirectory path
  | .file file => (disk.addFile path file).2
  | .link target => disk.insert path (.link target)
  | .lost => disk

/-- A disk with nothing below a directory. -/
def hollow (disk : Disk) (place : Path) : Disk :=
  match disk.node? place with
  | some node => (disk.eraseTree place).insert place node
  | none => disk

/-- A disk with a tree below a directory, and nothing else there. -/
def plant (disk : Disk) (place : Path) (tree : Tree) : Disk :=
  tree.entries.foldr (fun entry planted => planted.put (place ++ entry.1) entry.2)
    (disk.hollow place)

/-- No file has a number that is still to be given. -/
def Numbered (disk : Disk) : Prop :=
  ∀ path id, disk.node? path = some (.file id) → id < disk.fresh

/-- What is put somewhere stands there, and nothing else has changed. -/
theorem node?_put_of_ne
    (named : path ≠ [])
    (differs : other ≠ path) :
    (disk.put path item).node? other = disk.node? other := by
  cases item with
  | directory =>
      exact (node?_addDirectory disk named other).trans (if_neg differs)
  | file file =>
      exact (node?_addFile disk named file other).trans (if_neg differs)
  | link target =>
      exact (node?_insert disk named _ other).trans (if_neg differs)
  | lost =>
      rfl

theorem fresh_put (disk : Disk) (path : Path) (item : Item) :
    disk.fresh ≤ (disk.put path item).fresh := by
  cases item with
  | directory | file =>
      exact Nat.le_succ _
  | link | lost =>
      exact Nat.le_refl _

/-- Files that were there hold what they held when something is put somewhere. -/
theorem file?_put
    {id : Nat}
    (given : id < disk.fresh) :
    (disk.put path item).file? id = disk.file? id := by
  cases item with
  | file file =>
      exact (file?_addFile disk path file id).trans (if_neg (Nat.ne_of_lt given))
  | directory | link | lost =>
      rfl

/-- What is put somewhere is seen there, and all else as before. -/
theorem item?_put
    (numbered : disk.Numbered)
    (named : path ≠ [])
    (whole : item ≠ .lost)
    (other : Path) :
    (disk.put path item).item? other = if other = path then some item else disk.item? other := by
  split
  next here =>
    subst here
    cases item with
    | directory =>
        exact item?_eq_directory.2 ⟨disk.fresh, by simp [put, node?_addDirectory disk named]⟩
    | file file =>
        simp [put, item?, node?_addFile disk named, itemOf, file?_addFile]
    | link target =>
        simp [put, item?, node?_insert disk named, itemOf]
    | lost =>
        exact absurd rfl whole
  next differs =>
    unfold item?
    rw [node?_put_of_ne named differs]
    cases found : disk.node? other with
    | none =>
        rfl
    | some node =>
        cases node with
        | directory | link =>
            rfl
        | file id =>
            simp only [Option.map_some, itemOf, file?_put (numbered other id found)]

/-- Files have numbers that were given when something is put somewhere. -/
theorem Numbered.put
    (numbered : disk.Numbered)
    (named : path ≠ []) :
    (disk.put path item).Numbered := by
  intro other id found
  by_cases here : other = path
  · subst here
    cases item with
    | directory =>
        simp [Disk.put, node?_addDirectory disk named] at found
    | file file =>
        simp only [Disk.put, node?_addFile disk named, if_pos, Option.some.injEq,
          Node.file.injEq] at found
        subst found
        exact Nat.lt_succ_self _
    | link target =>
        simp [Disk.put, node?_insert disk named] at found
    | lost =>
        exact numbered other id found
  · rw [node?_put_of_ne named here] at found
    exact Nat.lt_of_lt_of_le (numbered other id found) (fresh_put disk path item)

/-- What stands where on a hollow disk: nothing below the directory, and all else. -/
theorem node?_hollow
    {node : Node}
    (found : disk.node? place = some node)
    (named : place ≠ [])
    (path : Path) :
    (disk.hollow place).node? path =
      if path ≠ place ∧ Path.isWithin path place = true then none else disk.node? path := by
  unfold hollow
  rw [found]
  simp only [node?_insert _ named, node?_eraseTree disk named]
  by_cases here : path = place
  · subst here
    simp [found]
  · simp [here]

@[simp] theorem file?_hollow (disk : Disk) (place : Path) (id : Nat) :
    (disk.hollow place).file? id = disk.file? id := by
  unfold hollow
  cases disk.node? place <;> rfl

@[simp] theorem fresh_hollow (disk : Disk) (place : Path) :
    (disk.hollow place).fresh = disk.fresh := by
  unfold hollow
  cases disk.node? place <;> rfl

/-- A disk on which some entries stand below a directory, and nothing else there. -/
structure Planted
    (place : Path)
    (entries : List (Path × Item))
    (before after : Disk) :
    Prop where
  nodes : ∀ path, path = place ∨ Path.isWithin path place = false →
    after.node? path = before.node? path
  items : ∀ rest, rest ≠ [] → after.item? (place ++ rest) = entries.lookup rest
  files : ∀ id, id < before.fresh → after.file? id = before.file? id
  fresh : before.fresh ≤ after.fresh
  numbered : after.Numbered

/-- Nothing stands below the directory of a hollow disk. -/
theorem planted_hollow
    {node : Node}
    (sound : disk.Sound)
    (found : disk.node? place = some node)
    (named : place ≠ []) :
    Planted place [] disk (disk.hollow place) where
  nodes path outside := by
    rw [node?_hollow found named, if_neg]
    rintro ⟨differs, inside⟩
    rcases outside with here | outside
    · exact differs here
    · rw [inside] at outside
      cases outside
  items rest more := by
    rw [List.lookup_nil, item?_eq_none, node?_hollow found named, if_pos]
    exact ⟨by simpa using more, Path.isWithin_append place rest⟩
  files id _ := file?_hollow disk place id
  fresh := Nat.le_of_eq (fresh_hollow disk place).symm
  numbered path id isThere := by
    rw [node?_hollow found named] at isThere
    split at isThere
    · cases isThere
    · rw [fresh_hollow]
      exact sound.numbered path id isThere

/-- One more entry is put below a directory. -/
theorem Planted.put
    {entries : List (Path × Item)}
    (planted : Planted place entries before after)
    {rest : Path}
    (more : rest ≠ [])
    (whole : item ≠ .lost) :
    Planted place ((rest, item) :: entries) before (after.put (place ++ rest) item) where
  nodes path outside := by
    rw [node?_put_of_ne (by simp [more]), planted.nodes path outside]
    rintro rfl
    rcases outside with here | outside
    · exact more (by simpa using here)
    · rw [Path.isWithin_append] at outside
      cases outside
  items other named := by
    rw [item?_put planted.numbered (by simp [more]) whole, planted.items other named,
      List.lookup_cons]
    by_cases here : other = rest
    · simp [here]
    · simp [here, beq_false_of_ne here]
  files id given := by
    rw [file?_put (Nat.lt_of_lt_of_le given planted.fresh), planted.files id given]
  fresh := Nat.le_trans planted.fresh (fresh_put after _ item)
  numbered := planted.numbered.put (by simp [more])

/-- A tree that is planted stands below its directory. -/
theorem planted_plant
    {node : Node}
    (sound : disk.Sound)
    (found : disk.node? place = some node)
    (named : place ≠ [])
    (tree : Tree) :
    Planted place tree.entries disk (disk.plant place tree) := by
  unfold plant
  have entryNamed := tree.named
  have whole := tree.whole
  generalize tree.entries = entries at entryNamed whole
  induction entries with
  | nil =>
      exact planted_hollow sound found named
  | cons entry entries inductionHypothesis =>
      have planted := inductionHypothesis
        (fun entry isThere => entryNamed entry (List.mem_cons_of_mem _ isThere))
        (fun entry isThere => whole entry (List.mem_cons_of_mem _ isThere))
      exact planted.put (entryNamed entry List.mem_cons_self)
        (whole entry List.mem_cons_self)

/-- What is seen below a directory that a tree was planted in is the tree. -/
theorem view_plant
    {id : Nat}
    (sound : disk.Sound)
    (directory : disk.node? place = some (.directory id))
    (named : place ≠ [])
    (tree : Tree) :
    (disk.plant place tree).view place = tree.view := by
  have planted := planted_plant sound directory named tree
  funext rest
  unfold view Tree.view
  split
  next here =>
    rw [here, List.append_nil, item?_eq_directory, planted.nodes place (.inl rfl)]
    exact ⟨id, directory⟩
  next more =>
    exact planted.items rest more

/-- Planting a tree in a directory touches nothing else. -/
theorem touches_plant
    {id : Nat}
    (sound : disk.Sound)
    (directory : disk.node? place = some (.directory id))
    (named : place ≠ [])
    (tree : Tree) :
    Touches place disk (disk.plant place tree) where
  nodes path outside := (planted_plant sound directory named tree).nodes path (.inr outside)
  files := (planted_plant sound directory named tree).files
  fresh := (planted_plant sound directory named tree).fresh
  sound := by
    have planted := planted_plant sound directory named tree
    refine ⟨?_, planted.numbered⟩
    intro path step node found
    by_cases inside : Path.isWithin path place = true
    · obtain ⟨rest, rfl⟩ := Path.isWithin_iff.1 inside
      rw [List.append_assoc] at found
      have seen := planted.items (rest ++ [step]) (by simp)
      unfold item? at seen
      rw [found] at seen
      rcases tree.rooted rest step _ seen.symm with top | isThere
      · rw [top, List.append_nil, planted.nodes place (.inl rfl)]
        exact ⟨id, directory⟩
      · by_cases top : rest = []
        · rw [top, List.append_nil, planted.nodes place (.inl rfl)]
          exact ⟨id, directory⟩
        · rw [← planted.items rest top] at isThere
          exact item?_eq_directory.1 isThere
    · rw [Bool.not_eq_true] at inside
      rw [planted.nodes path (.inr inside)]
      apply sound.rooted path step node
      rw [← planted.nodes _ ?_]
      · exact found
      · cases below : Path.isWithin (path ++ [step]) place with
        | false =>
            exact .inr rfl
        | true =>
            rcases Path.isWithin_snoc below with here | above
            · exact .inl here
            · rw [inside] at above
              cases above

end Disk

end CompilePlayground.Posix
