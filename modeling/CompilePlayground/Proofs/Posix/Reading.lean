import CompilePlayground.Proofs.Posix.Planting

namespace CompilePlayground.Posix

/-!
# Reading beside the directories of others

What a name leads to depends on nothing that stands in some directories that the name does not
speak of, as long as no link elsewhere speaks of them either: a walk comes into a directory by its
name only.
-/

namespace Path

variable {base path : Path} {names : Bytes → Prop} {name step : Bytes}

/-- A name that has none of some names among its steps. -/
def Avoids (names : Bytes → Prop) (name : Bytes) : Prop :=
  ∀ step ∈ steps name, ¬names step

instance [DecidablePred names] : Decidable (Avoids names name) :=
  inferInstanceAs (Decidable (∀ step ∈ steps name, ¬names step))

/-- A path that leads into none of the directories with some names below another one. -/
def IsBeside (base : Path) (names : Bytes → Prop) (path : Path) : Prop :=
  ∀ name, names name → isWithin path (base ++ [name]) = false

/-- The root is no directory with a name. -/
theorem IsBeside.nil (base : Path) (names : Bytes → Prop) : IsBeside base names [] :=
  fun _ _ => isWithin_nil_of_ne (by simp)

/-- The directory above one that is beside some others is beside them too. -/
theorem IsBeside.dropLast
    (beside : IsBeside base names path) :
    IsBeside base names path.dropLast := by
  intro name isName
  cases shape : isWithin path.dropLast (base ++ [name]) with
  | false =>
      rfl
  | true =>
      have below : isWithin path path.dropLast = true :=
        List.isPrefixOf_iff_prefix.2 (List.dropLast_prefix path)
      have inside := isWithin_trans below shape
      rw [beside name isName] at inside
      cases inside

/-- A step that has none of some names leads into none of the directories with these names. -/
theorem IsBeside.snoc
    (beside : IsBeside base names path)
    (apart : ¬names step) :
    IsBeside base names (path ++ [step]) := by
  intro name isName
  cases shape : isWithin (path ++ [step]) (base ++ [name]) with
  | false =>
      rfl
  | true =>
      rcases isWithin_snoc shape with same | inside
      · obtain ⟨-, same⟩ := List.append_inj' same rfl
        cases same
        exact absurd isName apart
      · rw [beside name isName] at inside
        cases inside

end Path

namespace Disk

variable {before disk first second : Disk} {start place base : Path} {name child leaf : Bytes}
  {names : Bytes → Prop} {inside : Path → Prop}

/-- Two disks on which all looks alike that is not in a directory with one of some names, and on
which no link elsewhere speaks of such a directory. -/
structure AlikeBeside
    (base : Path)
    (names : Bytes → Prop)
    (first second : Disk) :
    Prop where
  items : ∀ path, Path.IsBeside base names path → first.item? path = second.item? path
  links : ∀ path target, Path.IsBeside base names path →
    first.item? path = some (.link target) → Path.Avoids names target

/-- Two replies that lead to the same place in some part of a disk, where things stand that look
alike. -/
inductive SamePlace (inside : Path → Prop) (first second : Disk) :
    Reply Place → Reply Place → Prop where
  | existing
      {path : Path}
      {one two : Node}
      (within : inside path)
      (seen : first.item? path = some (first.itemOf one))
      (same : first.itemOf one = second.itemOf two) :
      SamePlace inside first second (.ok (.existing path one)) (.ok (.existing path two))
  | vacant
      (path : Path) :
      SamePlace inside first second (.ok (.vacant path)) (.ok (.vacant path))
  | error
      (error : SystemError) :
      SamePlace inside first second (.error error) (.error error)

/-- A walk that ends where it is comes to things that look alike. -/
theorem samePlace_walk_nil
    {path : Path}
    (within : inside path)
    (same : first.item? path = second.item? path)
    (follow : Bool)
    (links : Nat) :
    SamePlace inside first second (first.walk follow links path [])
      (second.walk follow links path []) := by
  rw [walk_nil, walk_nil]
  rcases node?_of_item?_eq same with ⟨one, two⟩ | ⟨one, two, isOne, isTwo, alike⟩
  · rw [one, two]
    exact .error _
  · rw [isOne, isTwo]
    exact .existing within (by rw [item?, isOne, Option.map_some]) alike

/-- A walk takes its first step alike on two disks where the directory and what stands at the
step look alike, as long as what comes after does. -/
theorem samePlace_walk_cons
    {path : Path}
    {step : Bytes}
    {rest : List Bytes}
    {links : Nat}
    (directory : first.item? path = second.item? path)
    (same : first.item? (path ++ [step]) = second.item? (path ++ [step]))
    (stays : SamePlace inside first second (first.walk true links path rest)
      (second.walk true links path rest))
    (rises : step = Path.above → SamePlace inside first second
      (first.walk true links path.dropLast rest) (second.walk true links path.dropLast rest))
    (descends : SamePlace inside first second (first.walk true links (path ++ [step]) rest)
      (second.walk true links (path ++ [step]) rest))
    (jumps : ∀ target, first.item? (path ++ [step]) = some (.link target) →
      SamePlace inside first second
        (first.walkOn true links (if Path.isAbsolute target then [] else path)
          (Path.steps target ++ rest))
        (second.walkOn true links (if Path.isAbsolute target then [] else path)
          (Path.steps target ++ rest))) :
    SamePlace inside first second (first.walk true links path (step :: rest))
      (second.walk true links path (step :: rest)) := by
  rw [walk_cons, walk_cons]
  rcases node?_of_item?_eq directory with ⟨one, two⟩ | ⟨one, two, isOne, isTwo, alike⟩
  · rw [one, two]
    exact .error _
  · rw [isOne, isTwo]
    cases lookAlike_of_itemOf_eq alike with
    | link | file =>
        exact .error _
    | directory =>
        simp only
        split
        · exact stays
        · split
          next isAbove =>
            exact rises isAbove
          next =>
            split
            · exact .error _
            · rcases node?_of_item?_eq same with ⟨one, two⟩ | ⟨one, two, isOne, isTwo, alike⟩
              · rw [one, two]
                simp only
                split
                · exact .vacant _
                · exact .error _
              · rw [isOne, isTwo]
                cases lookAlike_of_itemOf_eq alike with
                | link target =>
                    simp only [Bool.not_true, Bool.and_false, Bool.false_eq_true, if_false]
                    exact jumps target (by simp [item?, isOne, itemOf])
                | directory | file =>
                    exact descends

namespace AlikeBeside

/-- Walks along steps that have none of the names come to things that look alike, and not in one of
the directories with these names. -/
theorem samePlace_walk
    (alike : AlikeBeside base names first second)
    (links : Nat)
    (path : Path)
    (beside : Path.IsBeside base names path)
    (steps : List Bytes)
    (avoids : ∀ step ∈ steps, ¬names step) :
    SamePlace (Path.IsBeside base names) first second (first.walk true links path steps)
      (second.walk true links path steps) := by
  induction links, path, steps using walk_induction with
  | nil links path =>
      exact samePlace_walk_nil beside (alike.items path beside) true links
  | cons links path step steps shorter behindLinks =>
      rw [List.forall_mem_cons] at avoids
      have below := beside.snoc avoids.1
      apply samePlace_walk_cons
      · exact alike.items path beside
      · exact alike.items _ below
      · exact shorter path beside avoids.2
      · exact fun _ => shorter _ beside.dropLast avoids.2
      · exact shorter _ below avoids.2
      · intro target link
        cases links with
        | zero =>
            exact .error _
        | succ fewer =>
            have onward : ∀ step ∈ Path.steps target ++ steps, ¬names step :=
              List.forall_mem_append.2 ⟨alike.links _ target below link, avoids.2⟩
            refine behindLinks fewer (Nat.lt_succ_self _) _ _ ?_ onward
            split
            · exact .nil base names
            · exact beside

/-- A name that speaks of none of the directories leads to things that look alike. -/
theorem samePlace_locate
    (alike : AlikeBeside base names first second)
    (beside : Path.IsBeside base names start)
    (avoids : Path.Avoids names name) :
    SamePlace (Path.IsBeside base names) first second (first.locate (some start) true name)
      (second.locate (some start) true name) := by
  unfold locate
  split
  · exact .error _
  · split
    · exact .error _
    · split
      · exact alike.samePlace_walk _ _ (.nil base names) _ avoids
      · exact alike.samePlace_walk _ _ beside _ avoids

/-- A leaf of a directory that is beside the others leads to things that look alike. -/
theorem samePlace_leaf
    (alike : AlikeBeside base names first second)
    (beside : Path.IsBeside base names place)
    (below : Path.IsBeside base names (place ++ [leaf]))
    (plain : Path.IsPlain leaf)
    (links : Nat) :
    SamePlace (Path.IsBeside base names) first second (first.walk true links place [leaf])
      (second.walk true links place [leaf]) := by
  apply samePlace_walk_cons
  · exact alike.items place beside
  · exact alike.items _ below
  · exact samePlace_walk_nil beside (alike.items place beside) true links
  · exact fun isAbove => absurd isAbove plain.ne_above
  · exact samePlace_walk_nil below (alike.items _ below) true links
  · intro target link
    rw [List.append_nil]
    cases links with
    | zero =>
        exact .error _
    | succ fewer =>
        refine alike.samePlace_walk _ _ ?_ _ (alike.links _ target below link)
        split
        · exact .nil base names
        · exact beside

end AlikeBeside

/-- What is read depends on nothing but the place that the name leads to and what is seen there. -/
theorem SamePlace.read_eq
    {start? : Option Path}
    (same : SamePlace inside first second (first.locate start? true name)
      (second.locate start? true name)) :
    first.read start? name = second.read start? name := by
  unfold read findFile find
  generalize first.locate start? true name = one at same
  generalize second.locate start? true name = two at same
  cases same with
  | vacant | error =>
      rfl
  | existing _ _ alike =>
      cases lookAlike_of_itemOf_eq alike with
      | directory | link =>
          rfl
      | @file id number sameFile =>
          simp only [sameFile]
          cases first.file? id <;> rfl

/-- What is named in a directory of a directory is found from where the latter is. -/
theorem Enters.locate_leaf
    {base : Path}
    (enters : before.Enters start name base)
    (plainChild : Path.IsPlain child)
    (short : child.length ≤ Path.stepLimit)
    (plainLeaf : Path.IsPlain leaf) :
    ∃ left, ∀ disk : Disk,
      (∀ path node, before.node? path = some node → disk.node? path = some node) →
        (∃ id, disk.node? (base ++ [child]) = some (.directory id)) →
          Path.IsUsable (Path.join (Path.join name child) leaf) → ∀ follow,
            disk.locate (some start) follow (Path.join (Path.join name child) leaf) =
              disk.walk follow left (base ++ [child]) [leaf] := by
  obtain ⟨number, found⟩ := enters.node?_eq
  obtain ⟨id, walks⟩ := enters
  obtain ⟨left, onward⟩ := walk_append walks
  refine ⟨left, fun disk kept directory usable follow => ?_⟩
  obtain ⟨other, isThere⟩ := directory
  rw [locate_of_isUsable disk start follow usable, plainLeaf.steps_join,
    Path.origin_join start _ plainLeaf.not_isAbsolute,
    Path.origin_join start name plainChild.not_isAbsolute,
    Path.names_join name plainChild.not_isAbsolute, plainChild.names_eq, List.append_assoc,
    onward disk kept follow _ (by simp)]
  exact walk_descend (kept base _ found) plainChild.ne_here plainChild.ne_above short isThere
    nofun

/-- What is read in a directory that is beside others is the same on two disks where all looks alike
but what stands in those. -/
theorem Enters.read_leaf_eq
    (enters : before.Enters start name base)
    (plainChild : Path.IsPlain child)
    (short : child.length ≤ Path.stepLimit)
    (plainLeaf : Path.IsPlain leaf)
    (keptFirst : ∀ path node, before.node? path = some node → first.node? path = some node)
    (keptSecond : ∀ path node, before.node? path = some node → second.node? path = some node)
    (directory : ∃ id, first.node? (base ++ [child]) = some (.directory id))
    (alike : AlikeBeside base names first second)
    (beside : ∀ rest, Path.IsBeside base names (base ++ [child] ++ rest)) :
    first.read (some start) (Path.join (Path.join name child) leaf) =
      second.read (some start) (Path.join (Path.join name child) leaf) := by
  have here := beside []
  rw [List.append_nil] at here
  have there : ∃ id, second.node? (base ++ [child]) = some (.directory id) := by
    rw [← item?_eq_directory] at directory ⊢
    rw [← alike.items _ here]
    exact directory
  have samePlace : SamePlace (Path.IsBeside base names) first second
      (first.locate (some start) true (Path.join (Path.join name child) leaf))
      (second.locate (some start) true (Path.join (Path.join name child) leaf)) := by
    by_cases usable : Path.IsUsable (Path.join (Path.join name child) leaf)
    · obtain ⟨left, located⟩ := enters.locate_leaf plainChild short plainLeaf
      rw [located first keptFirst directory usable, located second keptSecond there usable]
      exact alike.samePlace_leaf here (beside [leaf]) plainLeaf left
    · obtain ⟨error, nowhere⟩ := locate_of_not_isUsable usable
      rw [nowhere, nowhere]
      exact .error error
  exact samePlace.read_eq

end Disk

end CompilePlayground.Posix
