import CompilePlayground.Proofs.Posix.Growth
import CompilePlayground.Proofs.Posix.Names

namespace CompilePlayground.Posix

/-!
# Where names lead

A walk only meets what stands on the disk, so that it goes the same way on a disk that has
grown. The last steps of a name are taken from where the first steps lead.
-/

/-- A place as it is on a disk, where it may not be vacant any more. -/
def Place.on (disk : Disk) : Place → Place
  | .existing path node => .existing path node
  | .vacant path =>
    match disk.node? path with
    | some node => .existing path node
    | none => .vacant path

namespace Disk

variable {disk before after : Disk} {follow : Bool} {links : Nat}

/-- The walk behind a symbolic link, of which only so many may be met. -/
def walkOn (disk : Disk) (follow : Bool) : Nat → Path → List Bytes → Reply Place
  | 0 => fun _ _ => .error .linkLoop
  | links + 1 => disk.walk follow links

/-- A walk goes step by step, and on behind every link. -/
theorem walk_eq (disk : Disk) (follow : Bool) (links : Nat) :
    disk.walk follow links = disk.walkWith follow (disk.walkOn follow links) := by
  cases links <;> rfl

theorem walk_nil (disk : Disk) (follow : Bool) (links : Nat) (path : Path) :
    disk.walk follow links path [] =
      match disk.node? path with
      | some node => .ok (.existing path node)
      | none => .error .notFound := by
  rw [walk_eq]
  rfl

/-- A walk takes its first step from a directory. -/
theorem walk_cons
    (disk : Disk)
    (follow : Bool)
    (links : Nat)
    (path : Path)
    (step : Bytes)
    (rest : List Bytes) :
    disk.walk follow links path (step :: rest) =
      match disk.node? path with
      | none => .error .notFound
      | some (.directory _) =>
        if step = Path.here then disk.walk follow links path rest
        else if step = Path.above then disk.walk follow links path.dropLast rest
        else if Path.stepLimit < step.length then .error .nameTooLong
        else
          match disk.node? (path ++ [step]) with
          | none => if rest.isEmpty then .ok (.vacant (path ++ [step])) else .error .notFound
          | some (.link target) =>
            if rest.isEmpty && !follow then
              .ok (.existing (path ++ [step]) (.link target))
            else
              disk.walkOn follow links (if Path.isAbsolute target then [] else path)
                (Path.steps target ++ rest)
          | some _ => disk.walk follow links (path ++ [step]) rest
      | some _ => .error .notDirectory := by
  simp only [walk_eq]
  rfl

/-- What a first step from a directory can lead to. -/
inductive Stride
    (disk : Disk)
    (follow : Bool)
    (links : Nat)
    (path : Path)
    (step : Bytes)
    (rest : List Bytes) :
    Reply Place → Prop where
  | stay
      (isHere : step = Path.here) :
      Stride disk follow links path step rest (disk.walk follow links path rest)
  | rise
      (isAbove : step = Path.above) :
      Stride disk follow links path step rest (disk.walk follow links path.dropLast rest)
  | refuse
      (ne_here : step ≠ Path.here)
      (ne_above : step ≠ Path.above)
      (tooLong : Path.stepLimit < step.length) :
      Stride disk follow links path step rest (.error .nameTooLong)
  | miss
      (ne_here : step ≠ Path.here)
      (ne_above : step ≠ Path.above)
      (short : step.length ≤ Path.stepLimit)
      (vacant : disk.node? (path ++ [step]) = none)
      (more : rest ≠ []) :
      Stride disk follow links path step rest (.error .notFound)
  | arrive
      (ne_here : step ≠ Path.here)
      (ne_above : step ≠ Path.above)
      (short : step.length ≤ Path.stepLimit)
      (vacant : disk.node? (path ++ [step]) = none)
      (last : rest = []) :
      Stride disk follow links path step rest (.ok (.vacant (path ++ [step])))
  | rest
      (ne_here : step ≠ Path.here)
      (ne_above : step ≠ Path.above)
      (short : step.length ≤ Path.stepLimit)
      (target : Bytes)
      (link : disk.node? (path ++ [step]) = some (.link target))
      (last : rest = [])
      (keeps : follow = false) :
      Stride disk follow links path step rest
        (.ok (.existing (path ++ [step]) (.link target)))
  | jump
      (ne_here : step ≠ Path.here)
      (ne_above : step ≠ Path.above)
      (short : step.length ≤ Path.stepLimit)
      (target : Bytes)
      (link : disk.node? (path ++ [step]) = some (.link target))
      (follows : rest ≠ [] ∨ follow = true) :
      Stride disk follow links path step rest
        (disk.walkOn follow links (if Path.isAbsolute target then [] else path)
          (Path.steps target ++ rest))
  | descend
      (ne_here : step ≠ Path.here)
      (ne_above : step ≠ Path.above)
      (short : step.length ≤ Path.stepLimit)
      (node : Node)
      (found : disk.node? (path ++ [step]) = some node)
      (solid : ∀ target, node ≠ .link target) :
      Stride disk follow links path step rest (disk.walk follow links (path ++ [step]) rest)

/-- A walk from a directory takes one of the strides. -/
theorem stride
    {path : Path}
    {id : Nat}
    (directory : disk.node? path = some (.directory id))
    (follow : Bool)
    (links : Nat)
    (step : Bytes)
    (rest : List Bytes) :
    Stride disk follow links path step rest (disk.walk follow links path (step :: rest)) := by
  rw [walk_cons, directory]
  simp only
  by_cases isHere : step = Path.here
  · rw [if_pos isHere]
    exact .stay isHere
  rw [if_neg isHere]
  by_cases isAbove : step = Path.above
  · rw [if_pos isAbove]
    exact .rise isAbove
  rw [if_neg isAbove]
  by_cases tooLong : Path.stepLimit < step.length
  · rw [if_pos tooLong]
    exact .refuse isHere isAbove tooLong
  rw [if_neg tooLong]
  have short := Nat.le_of_not_lt tooLong
  cases found : disk.node? (path ++ [step]) with
  | none =>
      cases rest with
      | nil =>
          exact .arrive isHere isAbove short found rfl
      | cons =>
          exact .miss isHere isAbove short found (List.cons_ne_nil _ _)
  | some node =>
      cases node with
      | file number =>
          exact .descend isHere isAbove short _ found nofun
      | directory number =>
          exact .descend isHere isAbove short _ found nofun
      | link target =>
          by_cases keeps : (rest.isEmpty && !follow) = true
          · simp only [keeps, if_true]
            rw [Bool.and_eq_true, List.isEmpty_iff, Bool.not_eq_true'] at keeps
            exact .rest isHere isAbove short target found keeps.1 keeps.2
          · simp only [keeps]
            rw [Bool.and_eq_true, List.isEmpty_iff, Bool.not_eq_true', not_and_or,
              Bool.not_eq_false] at keeps
            exact .jump isHere isAbove short target found keeps

/-- A walk that takes a step and comes to a place starts from a directory. -/
theorem directory_of_walk
    {path : Path}
    {step : Bytes}
    {rest : List Bytes}
    {place : Place}
    (walks : disk.walk follow links path (step :: rest) = .ok place) :
    ∃ id, disk.node? path = some (.directory id) := by
  rw [walk_cons] at walks
  cases found : disk.node? path with
  | none =>
      rw [found] at walks
      cases walks
  | some node =>
      cases node with
      | directory id =>
          exact ⟨id, rfl⟩
      | file id =>
          rw [found] at walks
          cases walks
      | link target =>
          rw [found] at walks
          cases walks

section Equations

variable
  {path : Path}
  {id : Nat}
  {step : Bytes}
  {rest : List Bytes}

/-- The step that stays where it is leads on from there. -/
theorem walk_here
    (directory : disk.node? path = some (.directory id)) :
    disk.walk follow links path (Path.here :: rest) = disk.walk follow links path rest := by
  rw [walk_cons, directory]
  rfl

/-- The step to the directory above leads on from there. -/
theorem walk_above
    (directory : disk.node? path = some (.directory id)) :
    disk.walk follow links path (Path.above :: rest) =
      disk.walk follow links path.dropLast rest := by
  rw [walk_cons, directory]
  rfl

/-- A last step may lead to where nothing stands. -/
theorem walk_vacant
    (directory : disk.node? path = some (.directory id))
    (ne_here : step ≠ Path.here)
    (ne_above : step ≠ Path.above)
    (short : step.length ≤ Path.stepLimit)
    (vacant : disk.node? (path ++ [step]) = none) :
    disk.walk follow links path [step] = .ok (.vacant (path ++ [step])) := by
  rw [walk_cons, directory]
  simp only [if_neg ne_here, if_neg ne_above, if_neg (Nat.not_lt.2 short), vacant]
  rfl

/-- A last step may lead to a link. -/
theorem walk_link
    {target : Bytes}
    (directory : disk.node? path = some (.directory id))
    (ne_here : step ≠ Path.here)
    (ne_above : step ≠ Path.above)
    (short : step.length ≤ Path.stepLimit)
    (link : disk.node? (path ++ [step]) = some (.link target)) :
    disk.walk false links path [step] = .ok (.existing (path ++ [step]) (.link target)) := by
  rw [walk_cons, directory]
  simp only [if_neg ne_here, if_neg ne_above, if_neg (Nat.not_lt.2 short), link]
  rfl

/-- A link is followed where there are more steps to take, or where it is to be followed. -/
theorem walk_jump
    {target : Bytes}
    (directory : disk.node? path = some (.directory id))
    (ne_here : step ≠ Path.here)
    (ne_above : step ≠ Path.above)
    (short : step.length ≤ Path.stepLimit)
    (link : disk.node? (path ++ [step]) = some (.link target))
    (follows : rest ≠ [] ∨ follow = true) :
    disk.walk follow links path (step :: rest) =
      disk.walkOn follow links (if Path.isAbsolute target then [] else path)
        (Path.steps target ++ rest) := by
  rw [walk_cons, directory]
  simp only [if_neg ne_here, if_neg ne_above, if_neg (Nat.not_lt.2 short), link]
  rw [if_neg]
  rw [Bool.and_eq_true, List.isEmpty_iff, Bool.not_eq_true', not_and_or, Bool.not_eq_false]
  exact follows

/-- A step leads to what stands there. -/
theorem walk_descend
    {node : Node}
    (directory : disk.node? path = some (.directory id))
    (ne_here : step ≠ Path.here)
    (ne_above : step ≠ Path.above)
    (short : step.length ≤ Path.stepLimit)
    (found : disk.node? (path ++ [step]) = some node)
    (solid : ∀ target, node ≠ .link target) :
    disk.walk follow links path (step :: rest) =
      disk.walk follow links (path ++ [step]) rest := by
  rw [walk_cons, directory]
  simp only [if_neg ne_here, if_neg ne_above, if_neg (Nat.not_lt.2 short), found]

end Equations

/-- What holds of walks without steps, and of a walk as soon as it holds of those with fewer
steps and of those behind a link, holds of all walks. -/
theorem walk_induction
    {motive : Nat → Path → List Bytes → Prop}
    (nil : ∀ links path, motive links path [])
    (cons : ∀ links path step rest, (∀ next, motive links next rest) →
      (∀ fewer, fewer < links → ∀ next steps, motive fewer next steps) →
        motive links path (step :: rest))
    (links : Nat)
    (path : Path)
    (steps : List Bytes) :
    motive links path steps := by
  induction links using Nat.strongRecOn generalizing path steps with
  | ind links behindLinks =>
      induction steps generalizing path with
      | nil =>
          exact nil links path
      | cons step rest shorter =>
          exact cons links path step rest shorter behindLinks

/-- A walk behind a link that comes to a place is a walk that may meet fewer links. -/
theorem exists_walk_of_walkOn
    {path : Path}
    {steps : List Bytes}
    {place : Place}
    (walks : disk.walkOn follow links path steps = .ok place) :
    ∃ fewer, links = fewer + 1 ∧ disk.walk follow fewer path steps = .ok place := by
  cases links with
  | zero =>
      cases walks
  | succ fewer =>
      exact ⟨fewer, rfl, walks⟩

/-- What a walk comes to stands there, or nothing does and the place is in a directory. -/
theorem place_of_walk
    {path : Path}
    {steps : List Bytes}
    {place : Place}
    (walks : disk.walk follow links path steps = .ok place) :
    (∃ at' node, place = .existing at' node ∧ disk.node? at' = some node) ∨
      ∃ above step id, place = .vacant (above ++ [step]) ∧
        disk.node? (above ++ [step]) = none ∧ disk.node? above = some (.directory id) := by
  induction links, path, steps using walk_induction with
  | nil links path =>
      rw [walk_nil] at walks
      cases found : disk.node? path with
      | none =>
          rw [found] at walks
          cases walks
      | some node =>
          rw [found] at walks
          cases walks
          exact .inl ⟨path, node, rfl, found⟩
  | cons links path step rest shorter behindLinks =>
      obtain ⟨id, directory⟩ := directory_of_walk walks
      have taken := stride directory follow links step rest
      rw [walks] at taken
      generalize same : (Except.ok place : Reply Place) = result at taken
      cases taken with
      | stay | rise | descend =>
          exact shorter _ same.symm
      | refuse | miss =>
          cases same
      | arrive _ _ _ vacant =>
          cases same
          exact .inr ⟨path, step, id, rfl, vacant, directory⟩
      | rest _ _ _ target link =>
          cases same
          exact .inl ⟨_, _, rfl, link⟩
      | jump =>
          obtain ⟨fewer, rfl, onward⟩ := exists_walk_of_walkOn same.symm
          exact behindLinks fewer (Nat.lt_succ_self _) _ _ onward

/-- On a disk that still has all that a walk met, the walk comes to the same place. -/
theorem walk_of_kept
    (kept : ∀ path node, before.node? path = some node → after.node? path = some node)
    {path : Path}
    {steps : List Bytes}
    {place : Place}
    (walks : before.walk follow links path steps = .ok place)
    (solid : ∀ at' target, place = .vacant at' → after.node? at' ≠ some (.link target)) :
    after.walk follow links path steps = .ok (place.on after) := by
  induction links, path, steps using walk_induction with
  | nil links path =>
      rw [walk_nil] at walks ⊢
      cases found : before.node? path with
      | none =>
          rw [found] at walks
          cases walks
      | some node =>
          rw [found] at walks
          cases walks
          rw [kept path node found]
          rfl
  | cons links path step rest shorter behindLinks =>
      obtain ⟨id, directory⟩ := directory_of_walk walks
      have still := kept _ _ directory
      have taken := stride directory follow links step rest
      rw [walks] at taken
      generalize same : (Except.ok place : Reply Place) = result at taken
      cases taken with
      | stay isHere =>
          subst isHere
          rw [walk_here still]
          exact shorter _ same.symm
      | rise isAbove =>
          subst isAbove
          rw [walk_above still]
          exact shorter _ same.symm
      | refuse | miss =>
          cases same
      | arrive ne_here ne_above short vacant last =>
          cases same
          subst last
          cases now : after.node? (path ++ [step]) with
          | none =>
              rw [walk_vacant still ne_here ne_above short now]
              simp only [Place.on, now]
          | some node =>
              have firm : ∀ target, node ≠ .link target := by
                rintro target rfl
                exact solid _ target rfl now
              rw [walk_descend still ne_here ne_above short now firm, walk_nil, now]
              simp only [Place.on, now]
      | rest ne_here ne_above short target link last keeps =>
          cases same
          subst last keeps
          rw [walk_link still ne_here ne_above short (kept _ _ link)]
          rfl
      | jump ne_here ne_above short target link follows =>
          rw [walk_jump still ne_here ne_above short (kept _ _ link) follows]
          obtain ⟨fewer, rfl, onward⟩ := exists_walk_of_walkOn same.symm
          exact behindLinks fewer (Nat.lt_succ_self _) _ _ onward
      | descend ne_here ne_above short node found firm =>
          rw [walk_descend still ne_here ne_above short (kept _ _ found) firm]
          exact shorter _ same.symm

/-- The steps behind the first ones are taken from where those lead, on every disk that still has
all that those met. -/
theorem walk_append
    {path : Path}
    {first : List Bytes}
    {place : Path}
    {node : Node}
    (walks : disk.walk true links path first = .ok (.existing place node)) :
    ∃ left, ∀ other : Disk,
      (∀ path node, disk.node? path = some node → other.node? path = some node) →
        ∀ (follow : Bool) (rest : List Bytes), rest ≠ [] →
          other.walk follow links path (first ++ rest) = other.walk follow left place rest := by
  induction links, path, first using walk_induction with
  | nil links path =>
      rw [walk_nil] at walks
      cases found : disk.node? path with
      | none =>
          rw [found] at walks
          cases walks
      | some node =>
          rw [found] at walks
          cases walks
          exact ⟨links, fun _ _ _ _ _ => rfl⟩
  | cons links path step more shorter behindLinks =>
      obtain ⟨id, directory⟩ := directory_of_walk walks
      have taken := stride directory true links step more
      rw [walks] at taken
      generalize same : (Except.ok (Place.existing place node) : Reply Place) = result at taken
      cases taken with
      | stay isHere =>
          subst isHere
          obtain ⟨left, onward⟩ := shorter _ same.symm
          refine ⟨left, fun other kept follow rest some => ?_⟩
          rw [List.cons_append, walk_here (kept _ _ directory)]
          exact onward other kept follow rest some
      | rise isAbove =>
          subst isAbove
          obtain ⟨left, onward⟩ := shorter _ same.symm
          refine ⟨left, fun other kept follow rest some => ?_⟩
          rw [List.cons_append, walk_above (kept _ _ directory)]
          exact onward other kept follow rest some
      | refuse | miss | arrive =>
          cases same
      | rest _ _ _ _ _ _ keeps =>
          cases keeps
      | jump ne_here ne_above short target link follows =>
          obtain ⟨fewer, rfl, walked⟩ := exists_walk_of_walkOn same.symm
          obtain ⟨left, onward⟩ := behindLinks fewer (Nat.lt_succ_self _) _ _ walked
          refine ⟨left, fun other kept follow rest some => ?_⟩
          rw [List.cons_append, walk_jump (kept _ _ directory) ne_here ne_above short
            (kept _ _ link) (.inl (by simp [some])), ← List.append_assoc]
          exact onward other kept follow rest some
      | descend ne_here ne_above short node found firm =>
          obtain ⟨left, onward⟩ := shorter _ same.symm
          refine ⟨left, fun other kept follow rest some => ?_⟩
          rw [List.cons_append, walk_descend (kept _ _ directory) ne_here ne_above short
            (kept _ _ found) firm]
          exact onward other kept follow rest some

/-- Where a walk goes on, its first steps have led to a directory. -/
theorem directory_of_walk_append
    {path : Path}
    {first rest : List Bytes}
    {place : Place}
    (some : rest ≠ [])
    (walks : disk.walk follow links path (first ++ rest) = .ok place) :
    ∃ at' id, disk.walk true links path first = .ok (.existing at' (.directory id)) := by
  induction links, path, first using walk_induction with
  | nil links path =>
      obtain ⟨step, more, rfl⟩ := List.exists_cons_of_ne_nil some
      obtain ⟨id, directory⟩ := directory_of_walk walks
      refine ⟨path, id, ?_⟩
      rw [walk_nil, directory]
  | cons links path step more shorter behindLinks =>
      rw [List.cons_append] at walks
      obtain ⟨id, directory⟩ := directory_of_walk walks
      have taken := stride directory follow links step (more ++ rest)
      rw [walks] at taken
      generalize same : (Except.ok place : Reply Place) = result at taken
      cases taken with
      | stay isHere =>
          subst isHere
          rw [walk_here directory]
          exact shorter _ same.symm
      | rise isAbove =>
          subst isAbove
          rw [walk_above directory]
          exact shorter _ same.symm
      | refuse | miss =>
          cases same
      | arrive _ _ _ _ last =>
          exact absurd last (by simp [some])
      | rest _ _ _ _ _ last =>
          exact absurd last (by simp [some])
      | jump ne_here ne_above short target link follows =>
          rw [walk_jump directory ne_here ne_above short link (.inr rfl)]
          obtain ⟨fewer, rfl, walked⟩ := exists_walk_of_walkOn same.symm
          rw [← List.append_assoc] at walked
          exact behindLinks fewer (Nat.lt_succ_self _) _ _ walked
      | descend ne_here ne_above short node found firm =>
          rw [walk_descend directory ne_here ne_above short found firm]
          exact shorter _ same.symm

/-- Where a walk that follows all links comes to something, one that does not follow the last
one does too. -/
theorem walk_false_of_walk
    {path : Path}
    {steps : List Bytes}
    {place : Path}
    {node : Node}
    (walks : disk.walk true links path steps = .ok (.existing place node)) :
    ∃ at' other, disk.walk false links path steps = .ok (.existing at' other) := by
  induction links, path, steps using walk_induction with
  | nil links path =>
      rw [walk_nil] at walks ⊢
      exact ⟨place, node, walks⟩
  | cons links path step rest shorter behindLinks =>
      obtain ⟨id, directory⟩ := directory_of_walk walks
      have taken := stride directory true links step rest
      rw [walks] at taken
      generalize same : (Except.ok (Place.existing place node) : Reply Place) = result at taken
      cases taken with
      | stay isHere =>
          subst isHere
          rw [walk_here directory]
          exact shorter _ same.symm
      | rise isAbove =>
          subst isAbove
          rw [walk_above directory]
          exact shorter _ same.symm
      | refuse | miss | arrive =>
          cases same
      | rest _ _ _ _ _ _ keeps =>
          cases keeps
      | jump ne_here ne_above short target link follows =>
          by_cases last : rest = []
          · subst last
            exact ⟨_, _, walk_link directory ne_here ne_above short link⟩
          · rw [walk_jump directory ne_here ne_above short link (.inl last)]
            obtain ⟨fewer, rfl, walked⟩ := exists_walk_of_walkOn same.symm
            exact behindLinks fewer (Nat.lt_succ_self _) _ _ walked
      | descend ne_here ne_above short node found firm =>
          rw [walk_descend directory ne_here ne_above short found firm]
          exact shorter _ same.symm

/-- A walk that does not come to a link comes to the same place whether the last link is to be
followed or not. -/
theorem walk_true_of_walk
    {path : Path}
    {steps : List Bytes}
    {place : Place}
    (walks : disk.walk false links path steps = .ok place)
    (solid : ∀ at' target, place ≠ .existing at' (.link target)) :
    disk.walk true links path steps = .ok place := by
  induction links, path, steps using walk_induction with
  | nil links path =>
      rw [walk_nil] at walks ⊢
      exact walks
  | cons links path step rest shorter behindLinks =>
      obtain ⟨id, directory⟩ := directory_of_walk walks
      have taken := stride directory false links step rest
      rw [walks] at taken
      generalize same : (Except.ok place : Reply Place) = result at taken
      cases taken with
      | stay isHere =>
          subst isHere
          rw [walk_here directory]
          exact (shorter _ same.symm).trans same
      | rise isAbove =>
          subst isAbove
          rw [walk_above directory]
          exact (shorter _ same.symm).trans same
      | refuse | miss =>
          cases same
      | arrive ne_here ne_above short vacant last =>
          cases same
          subst last
          exact walk_vacant directory ne_here ne_above short vacant
      | rest =>
          cases same
          exact absurd rfl (solid _ _)
      | jump ne_here ne_above short target link follows =>
          rw [walk_jump directory ne_here ne_above short link (.inr rfl)]
          obtain ⟨fewer, rfl, walked⟩ := exists_walk_of_walkOn same.symm
          exact (behindLinks fewer (Nat.lt_succ_self _) _ _ walked).trans same
      | descend ne_here ne_above short node found firm =>
          rw [walk_descend directory ne_here ne_above short found firm]
          exact (shorter _ same.symm).trans same

/-- A last step that stays where it is leads to the directory that the others lead to. -/
theorem walk_append_here
    {path : Path}
    {first : List Bytes}
    {place : Path}
    {id : Nat}
    (walks : disk.walk true links path first = .ok (.existing place (.directory id)))
    (follow : Bool) :
    disk.walk follow links path (first ++ [Path.here]) =
      .ok (.existing place (.directory id)) := by
  obtain ⟨left, onward⟩ := walk_append walks
  rcases place_of_walk walks with ⟨_, _, shape, found⟩ | ⟨_, _, _, shape, _⟩
  · cases shape
    rw [onward disk (fun _ _ there => there) follow _ (by simp), walk_here found, walk_nil,
      found]
  · cases shape

/-- Walks are the same on disks on which the same stands everywhere. -/
theorem walk_congr
    (same : ∀ path, before.node? path = after.node? path)
    (follow : Bool)
    (links : Nat)
    (path : Path)
    (steps : List Bytes) :
    before.walk follow links path steps = after.walk follow links path steps := by
  induction links, path, steps using walk_induction with
  | nil links path =>
      rw [walk_nil, walk_nil, same]
  | cons links path step rest shorter behindLinks =>
      have onward (next : Path) (steps : List Bytes) :
          before.walkOn follow links next steps = after.walkOn follow links next steps := by
        cases links with
        | zero =>
            rfl
        | succ fewer =>
            exact behindLinks fewer (Nat.lt_succ_self _) next steps
      simp only [walk_cons, same, shorter, onward]

end Disk

end CompilePlayground.Posix
