import CompilePlayground.Proofs.Posix.Walk

namespace CompilePlayground.Posix

/-!
# Names of directories that are there, and of those that are to be made

A name `Awaits` a directory when all of it but the last step is there, and `Leads` to one that is
there without a link at its end. What is named in a directory is found from where the name of
the directory leads.
-/

namespace Path

/-- A name that the system takes: it is not empty, and not too long. -/
def IsUsable (name : Bytes) : Prop :=
  name ≠ [] ∧ name.length < nameLimit

/-- Where a name begins. -/
def origin (start : Path) (name : Bytes) : Path :=
  if isAbsolute name then [] else start

/-- Whether a name is taken can be decided. -/
instance (name : Bytes) : Decidable (IsUsable name) := by
  unfold IsUsable
  infer_instance

/-- A name begins where it does without the slashes at its end. -/
@[simp] theorem origin_trimmed (start : Path) (name : Bytes) :
    origin start (trimmed name) = origin start name := by
  simp [origin]

/-- A name that is taken is taken without the slashes at its end. -/
theorem IsUsable.trimmed
    {name : Bytes}
    (usable : IsUsable name) :
    IsUsable (trimmed name) :=
  ⟨by simpa using usable.1, Nat.lt_of_le_of_lt (length_trimmed_le name) usable.2⟩

/-- A name of something in a directory begins where that of the directory does. -/
theorem origin_join
    (start : Path)
    (directory : Bytes)
    {name : Bytes}
    (relative : isAbsolute name = false) :
    origin start (join directory name) = origin start directory := by
  unfold origin
  rw [isAbsolute_join directory relative]

end Path

namespace Disk

variable {disk before after : Disk} {start : Path} {name : Bytes} {place : Path}

/-- A name that is taken is walked along. -/
theorem locate_of_isUsable
    (disk : Disk)
    (start : Path)
    (follow : Bool)
    (usable : Path.IsUsable name) :
    disk.locate (some start) follow name =
      disk.walk follow linkLimit (Path.origin start name) (Path.steps name) := by
  unfold locate Path.origin
  rw [if_neg (by simpa using usable.1), if_neg (Nat.not_le.2 usable.2)]
  split <;> rfl

/-- A name that is not taken leads nowhere, whatever is there. -/
theorem locate_of_not_isUsable
    (unusable : ¬Path.IsUsable name) :
    ∃ error, ∀ (disk : Disk) (start? : Option Path) (follow : Bool),
      disk.locate start? follow name = .error error := by
  by_cases empty : name = []
  · subst empty
    exact ⟨.notFound, fun _ _ _ => rfl⟩
  · have tooLong : Path.nameLimit ≤ name.length :=
      Nat.le_of_not_lt fun short => unusable ⟨empty, short⟩
    refine ⟨.nameTooLong, fun disk start? follow => ?_⟩
    unfold locate
    rw [if_neg (by simpa using empty), if_pos tooLong]

/-- A name has been found when it leads to something that is there. -/
theorem find_eq_ok
    {start? : Option Path}
    {follow : Bool}
    {node : Node} :
    disk.find start? follow name = .ok (place, node) ↔
      disk.locate start? follow name = .ok (.existing place node) := by
  unfold find
  cases disk.locate start? follow name with
  | error error =>
      simp
  | ok found =>
      cases found <;> simp

/-- Only names that are taken lead anywhere. -/
theorem isUsable_of_locate
    {start? : Option Path}
    {follow : Bool}
    {found : Place}
    (located : disk.locate start? follow name = .ok found) :
    Path.IsUsable name := by
  by_cases usable : Path.IsUsable name
  · exact usable
  · obtain ⟨error, nowhere⟩ := locate_of_not_isUsable usable
    rw [nowhere] at located
    cases located

/-- A name of a directory whose last step leads to where nothing stands yet. -/
def Awaits (disk : Disk) (start : Path) (name : Bytes) (place : Path) : Prop :=
  ∀ follow, disk.walk follow linkLimit (Path.origin start name) (Path.names name) =
    .ok (.vacant place)

/-- A name of a directory that is there, with no link at the end of the name. -/
def Leads (disk : Disk) (start : Path) (name : Bytes) (place : Path) : Prop :=
  ∃ id, ∀ follow, disk.walk follow linkLimit (Path.origin start name) (Path.names name) =
    .ok (.existing place (.directory id))

/-- A name of a directory that is there. -/
def Enters (disk : Disk) (start : Path) (name : Bytes) (place : Path) : Prop :=
  ∃ id, disk.walk true linkLimit (Path.origin start name) (Path.names name) =
    .ok (.existing place (.directory id))

theorem Leads.enters
    (leads : disk.Leads start name place) :
    disk.Enters start name place := by
  obtain ⟨id, walks⟩ := leads
  exact ⟨id, walks true⟩

/-- Where a name of a directory leads, a directory stands. -/
theorem Enters.node?_eq
    (enters : disk.Enters start name place) :
    ∃ id, disk.node? place = some (.directory id) := by
  obtain ⟨id, walks⟩ := enters
  rcases place_of_walk walks with ⟨_, _, same, found⟩ | ⟨_, _, _, same, _⟩
  · cases same
    exact ⟨id, found⟩
  · cases same

/-- A place that is awaited is in a directory, and nothing stands there. -/
theorem Awaits.vacant
    (awaits : disk.Awaits start name place) :
    disk.node? place = none ∧
      ∃ above step id, place = above ++ [step] ∧ disk.node? above = some (.directory id) := by
  rcases place_of_walk (awaits true) with ⟨_, _, same, _⟩ | ⟨above, step, id, same, none, dir⟩
  · cases same
  · cases same
    exact ⟨none, above, step, id, rfl, dir⟩

theorem Awaits.ne_nil
    (awaits : disk.Awaits start name place) :
    place ≠ [] := by
  rintro rfl
  cases awaits.vacant.1

/-- A directory that was awaited is led to once it is there. -/
theorem Awaits.leads
    (awaits : before.Awaits start name place)
    (kept : ∀ path node, before.node? path = some node → after.node? path = some node)
    {id : Nat}
    (made : after.node? place = some (.directory id)) :
    after.Leads start name place := by
  refine ⟨id, fun follow => ?_⟩
  have walks := walk_of_kept kept (awaits follow) (by
    rintro _ target ⟨⟩ link
    rw [made] at link
    cases link)
  simpa only [Place.on, made] using walks

theorem Enters.of_kept
    (enters : before.Enters start name place)
    (kept : ∀ path node, before.node? path = some node → after.node? path = some node) :
    after.Enters start name place := by
  obtain ⟨id, walks⟩ := enters
  exact ⟨id, walk_of_kept kept walks nofun⟩

/-- The directory that a name leads to is found under it. -/
theorem Leads.find_eq
    (leads : disk.Leads start name place)
    (usable : Path.IsUsable name)
    (follow : Bool) :
    ∃ id, disk.find (some start) follow name = .ok (place, .directory id) := by
  obtain ⟨id, walks⟩ := leads
  refine ⟨id, find_eq_ok.2 ?_⟩
  rw [locate_of_isUsable disk start follow usable]
  rcases Path.steps_cases name with same | ⟨_, same⟩
  · rw [same, walks]
  · rw [same, walk_append_here (walks true)]

/-- The directory that a name leads to is found under it when links are followed. -/
theorem Enters.find_eq
    (enters : disk.Enters start name place)
    (usable : Path.IsUsable name) :
    ∃ id, disk.find (some start) true name = .ok (place, .directory id) := by
  obtain ⟨id, walks⟩ := enters
  refine ⟨id, find_eq_ok.2 ?_⟩
  rw [locate_of_isUsable disk start true usable]
  rcases Path.steps_cases name with same | ⟨_, same⟩
  · rw [same, walks]
  · rw [same, walk_append_here walks]

/-- A name under which a directory is found when links are followed leads there. -/
theorem enters_of_find
    {id : Nat}
    (found : disk.find (some start) true name = .ok (place, .directory id)) :
    disk.Enters start name place := by
  have located := find_eq_ok.1 found
  rw [locate_of_isUsable disk start true (isUsable_of_locate located)] at located
  rcases Path.steps_cases name with same | ⟨_, same⟩
  · rw [same] at located
    exact ⟨id, located⟩
  · rw [same] at located
    obtain ⟨other, number, walks⟩ := directory_of_walk_append (by simp) located
    rw [walk_append_here walks] at located
    cases located
    exact ⟨_, walks⟩

/-- What is named in a directory is found from where the directory is. -/
theorem Enters.locate_join
    (enters : before.Enters start name place)
    {child : Bytes}
    (plain : Path.IsPlain child) :
    ∃ left, ∀ disk : Disk,
      (∀ path node, before.node? path = some node → disk.node? path = some node) →
        Path.IsUsable (Path.join name child) → ∀ follow,
          disk.locate (some start) follow (Path.join name child) =
            disk.walk follow left place [child] := by
  obtain ⟨id, walks⟩ := enters
  obtain ⟨left, onward⟩ := walk_append walks
  refine ⟨left, fun disk kept usable follow => ?_⟩
  rw [locate_of_isUsable disk start follow usable, plain.steps_join,
    Path.origin_join start name plain.not_isAbsolute]
  exact onward disk kept follow [child] (by simp)

/-- Where the name of a directory leads, a name in it awaits what is not there yet. -/
theorem Enters.awaits_join
    (enters : before.Enters start name place)
    {child : Bytes}
    (plain : Path.IsPlain child)
    (short : child.length ≤ Path.stepLimit)
    (kept : ∀ path node, before.node? path = some node → after.node? path = some node)
    (vacant : after.node? (place ++ [child]) = none) :
    after.Awaits start (Path.join name child) (place ++ [child]) := by
  obtain ⟨number, found⟩ := enters.node?_eq
  obtain ⟨id, walks⟩ := enters
  obtain ⟨left, onward⟩ := walk_append walks
  intro follow
  rw [Path.origin_join start name plain.not_isAbsolute,
    Path.names_join name plain.not_isAbsolute, plain.names_eq, onward after kept follow _ (by simp)]
  exact walk_vacant (kept place _ found) plain.ne_here plain.ne_above short vacant

/-- Where the name of a directory leads, a name in it leads to a directory that is there. -/
theorem Enters.leads_join
    (enters : before.Enters start name place)
    {child : Bytes}
    (plain : Path.IsPlain child)
    (short : child.length ≤ Path.stepLimit)
    (kept : ∀ path node, before.node? path = some node → after.node? path = some node)
    (directory : ∃ id, after.node? (place ++ [child]) = some (.directory id)) :
    after.Leads start (Path.join name child) (place ++ [child]) := by
  obtain ⟨number, found⟩ := enters.node?_eq
  obtain ⟨id, walks⟩ := enters
  obtain ⟨left, onward⟩ := walk_append walks
  obtain ⟨other, isThere⟩ := directory
  refine ⟨other, fun follow => ?_⟩
  rw [Path.origin_join start name plain.not_isAbsolute,
    Path.names_join name plain.not_isAbsolute, plain.names_eq, onward after kept follow _ (by simp),
    walk_descend (kept place _ found) plain.ne_here plain.ne_above short isThere nofun, walk_nil,
    isThere]

end Disk

end CompilePlayground.Posix
