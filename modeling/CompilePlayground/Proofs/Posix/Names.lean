import CompilePlayground.Posix.Path
import Mathlib.Data.List.DropRight

namespace CompilePlayground.Posix.Path

/-!
# The steps that names are made of

What a name leads through are its parts that are not empty. Putting a name below another puts
the parts of one behind those of the other, and taking the last step away takes away the last
part.
-/

/-- The parts of a name that are not empty. -/
def names (name : Bytes) : List Bytes :=
  (parts name).filter fun part => !part.isEmpty

/-- A step that is named in a directory: it is not empty, it is neither of the two steps that
every directory has, and there is no slash in it. -/
structure IsPlain (step : Bytes) : Prop where
  named : step ≠ []
  ne_here : step ≠ here
  ne_above : step ≠ above
  whole : slash ∉ step

instance (step : Bytes) : Decidable (IsPlain step) :=
  decidable_of_iff (step ≠ [] ∧ step ≠ here ∧ step ≠ above ∧ slash ∉ step)
    ⟨fun ⟨named, ne_here, ne_above, whole⟩ => ⟨named, ne_here, ne_above, whole⟩,
      fun plain => ⟨plain.named, plain.ne_here, plain.ne_above, plain.whole⟩⟩

/-- A name has at least one part. -/
theorem parts_ne_nil (name : Bytes) : parts name ≠ [] := by
  cases name with
  | nil =>
      simp [parts]
  | cons byte rest =>
      unfold parts
      split
      · exact List.cons_ne_nil _ _
      · split <;> exact List.cons_ne_nil _ _

/-- A slash parts what stands before it from what stands behind it. -/
theorem parts_append_slash (before behind : Bytes) :
    parts (before ++ slash :: behind) = parts before ++ parts behind := by
  induction before with
  | nil =>
      simp [parts]
  | cons byte rest inductionHypothesis =>
      simp only [List.cons_append, parts, inductionHypothesis]
      split
      · rfl
      · cases split : parts rest with
        | nil =>
            exact absurd split (parts_ne_nil rest)
        | cons part more =>
            rfl

/-- What has no slash in it is one part. -/
theorem parts_of_whole
    {name : Bytes}
    (whole : slash ∉ name) :
    parts name = [name] := by
  induction name with
  | nil =>
      rfl
  | cons byte rest inductionHypothesis =>
      rw [List.mem_cons, not_or] at whole
      rw [parts, if_neg (Ne.symm whole.1), inductionHypothesis whole.2]

theorem names_append_slash (before behind : Bytes) :
    names (before ++ slash :: behind) = names before ++ names behind := by
  unfold names
  rw [parts_append_slash, List.filter_append]

/-- Slashes at the end of a name add no step. -/
theorem names_append_slashes (name : Bytes) (count : Nat) :
    names (name ++ List.replicate count slash) = names name := by
  induction count with
  | zero =>
      simp
  | succ count inductionHypothesis =>
      rw [List.replicate_succ', ← List.append_assoc, names_append_slash, inductionHypothesis]
      exact List.append_nil _

/-- What has no slash in it is one step, unless it is empty. -/
theorem names_of_whole
    {name : Bytes}
    (whole : slash ∉ name) :
    names name = if name.isEmpty then [] else [name] := by
  unfold names
  rw [parts_of_whole whole]
  cases name <;> rfl

theorem IsPlain.names_eq
    {step : Bytes}
    (plain : IsPlain step) :
    names step = [step] := by
  rw [names_of_whole plain.whole, if_neg]
  simpa using plain.named

/-- A plain step does not begin at the root. -/
theorem IsPlain.not_isAbsolute
    {step : Bytes}
    (plain : IsPlain step) :
    isAbsolute step = false := by
  unfold isAbsolute
  cases step with
  | nil =>
      rfl
  | cons byte rest =>
      have apart : slash ≠ byte := fun same => plain.whole (same ▸ List.mem_cons_self)
      simpa using Ne.symm apart

/-- Trimming takes nothing from an empty name, leaves one slash of a name that has nothing else,
and otherwise takes the slashes at the end. -/
theorem trimmed_cases (name : Bytes) :
    name = [] ∧ trimmed name = [] ∨
      (∃ count, name = List.replicate (count + 1) slash) ∧ trimmed name = [slash] ∨
      (∃ count, name = trimmed name ++ List.replicate count slash) ∧ trimmed name ≠ [] ∧
        (trimmed name).getLast? ≠ some slash := by
  have split : name.rdropWhile (· == slash) ++ name.rtakeWhile (· == slash) = name :=
    List.rdropWhile_append_rtakeWhile
  have slashes : name.rtakeWhile (· == slash) =
      List.replicate (name.rtakeWhile (· == slash)).length slash := by
    rw [List.eq_replicate_iff]
    exact ⟨rfl, fun byte listed => by simpa using List.mem_rtakeWhile_imp listed⟩
  have shape : trimmed name =
      if (name.rdropWhile (· == slash)).isEmpty && !name.isEmpty then [slash]
      else name.rdropWhile (· == slash) :=
    rfl
  by_cases short : name.rdropWhile (· == slash) = []
  · rw [short, List.nil_append] at split
    cases name with
    | nil =>
        exact .inl ⟨rfl, rfl⟩
    | cons byte rest =>
        refine .inr (.inl ⟨⟨rest.length, ?_⟩, ?_⟩)
        · rw [← split, slashes, split]
          rfl
        · rw [shape, short]
          rfl
  · have kept : trimmed name = name.rdropWhile (· == slash) := by
      rw [shape, if_neg]
      simp [short]
    refine .inr (.inr ⟨⟨(name.rtakeWhile (· == slash)).length, ?_⟩, ?_, ?_⟩)
    · rw [kept, ← slashes, split]
    · rw [kept]
      exact short
    · rw [kept, List.getLast?_eq_some_getLast short]
      have last := List.rdropWhile_last_not (· == slash) name short
      simpa using last

@[simp] theorem names_trimmed (name : Bytes) : names (trimmed name) = names name := by
  rcases trimmed_cases name with ⟨empty, trimmed⟩ | ⟨⟨count, slashes⟩, trimmed⟩ |
    ⟨⟨count, shape⟩, _⟩
  · rw [empty, ← empty, trimmed, empty]
  · rw [trimmed, slashes]
    exact (names_append_slashes [] 1).trans (names_append_slashes [] (count + 1)).symm
  · conv_rhs => rw [shape, names_append_slashes]

/-- A trimmed name begins where the name does. -/
@[simp] theorem isAbsolute_trimmed (name : Bytes) :
    isAbsolute (trimmed name) = isAbsolute name := by
  rcases trimmed_cases name with ⟨empty, trimmed⟩ | ⟨⟨count, slashes⟩, trimmed⟩ |
    ⟨⟨count, shape⟩, named, _⟩
  · rw [trimmed, empty]
  · rw [trimmed, slashes]
    rfl
  · conv_rhs => rw [shape]
    cases head : trimmed name with
    | nil =>
        exact absurd head named
    | cons byte rest =>
        rfl

/-- A trimmed name is no longer than the name. -/
theorem length_trimmed_le (name : Bytes) : (trimmed name).length ≤ name.length := by
  rcases trimmed_cases name with ⟨empty, trimmed⟩ | ⟨⟨count, slashes⟩, trimmed⟩ |
    ⟨⟨count, shape⟩, _⟩
  · simp [trimmed]
  · rw [trimmed, slashes]
    simp
  · conv_rhs => rw [shape]
    simp

/-- A name is empty when nothing is left of it. -/
@[simp] theorem trimmed_eq_nil {name : Bytes} : trimmed name = [] ↔ name = [] := by
  rcases trimmed_cases name with ⟨rfl, trimmed⟩ | ⟨⟨count, rfl⟩, trimmed⟩ |
    ⟨⟨count, shape⟩, named, _⟩
  · simp [trimmed]
  · rw [trimmed]
    simp
  · constructor
    · intro empty
      exact absurd empty named
    · rintro rfl
      rfl

/-- The steps of a trimmed name are its parts that are not empty. -/
theorem steps_trimmed (name : Bytes) : steps (trimmed name) = names name := by
  rw [← names_trimmed name]
  rcases trimmed_cases name with ⟨_, trimmed⟩ | ⟨_, trimmed⟩ | ⟨_, _, ended⟩
  · rw [trimmed]
    rfl
  · rw [trimmed]
    rfl
  · unfold steps
    rw [if_neg]
    · rfl
    · simp [ended]

/-- The steps of a name are its parts that are not empty, and one more that stays where it is if
a directory is asked for. -/
theorem steps_cases (name : Bytes) :
    steps name = names name ∨ names name ≠ [] ∧ steps name = names name ++ [here] := by
  have shape : steps name =
      if !(names name).isEmpty && name.getLast? == some slash then names name ++ [here]
      else names name :=
    rfl
  rw [shape]
  split
  next asks =>
    rw [Bool.and_eq_true, Bool.not_eq_true', List.isEmpty_eq_false_iff] at asks
    exact .inr ⟨asks.1, rfl⟩
  next =>
    exact .inl rfl

/-- What stands before the last step of a name ends in a slash, unless it is empty. -/
theorem parent_eq (name : Bytes) :
    parent name = (trimmed name).rdropWhile (· != slash) := by
  have split :
      (trimmed name).rdropWhile (· != slash) ++ lastStep (trimmed name) = trimmed name :=
    List.rdropWhile_append_rtakeWhile
  have lengths := congrArg List.length split
  rw [List.length_append] at lengths
  unfold parent
  rw [← lengths, Nat.add_sub_cancel]
  exact (congrArg (List.take _) split.symm).trans List.take_left

/-- What stands before the last step, and the last step, are all of a trimmed name. -/
theorem parent_append (name : Bytes) :
    parent name ++ lastStep (trimmed name) = trimmed name := by
  rw [parent_eq]
  exact List.rdropWhile_append_rtakeWhile

theorem slash_not_mem_lastStep (name : Bytes) : slash ∉ lastStep name := by
  intro listed
  have last : slash ∈ name.rtakeWhile (· != slash) := listed
  simpa using List.mem_rtakeWhile_imp last

/-- What stands before the last step is empty or ends in a slash. -/
theorem parent_cases (name : Bytes) :
    parent name = [] ∨ ∃ before, parent name = before ++ [slash] := by
  by_cases empty : parent name = []
  · exact .inl empty
  · right
    refine ⟨(parent name).dropLast, ?_⟩
    have last : (parent name).getLast empty = slash := by
      rw [parent_eq] at empty
      simp only [parent_eq]
      simpa using List.rdropWhile_last_not (· != slash) (trimmed name) empty
    conv_lhs => rw [← List.dropLast_append_getLast empty, last]

/-- The steps of a name are those before the last one, and the last one. -/
theorem names_parent_append (name : Bytes) :
    names name = names (parent name) ++ names (lastStep (trimmed name)) := by
  rw [← names_trimmed name]
  conv_lhs => rw [← parent_append name]
  rcases parent_cases name with empty | ⟨before, ended⟩
  · rw [empty]
    rfl
  · rw [ended, List.append_assoc, List.singleton_append, names_append_slash,
      names_append_slash]
    exact congrArg (· ++ _) (List.append_nil _).symm

/-- When there is something before the last step of a name, the name has a last step. -/
theorem lastStep_ne_nil
    {name : Bytes}
    (apart : parent name ≠ trimmed name) :
    lastStep (trimmed name) ≠ [] := by
  intro none
  apply apart
  have split := parent_append name
  rwa [none, List.append_nil] at split

theorem names_eq_snoc
    {name : Bytes}
    (apart : parent name ≠ trimmed name) :
    names name = names (trimmed (parent name)) ++ [lastStep (trimmed name)] := by
  rw [names_parent_append, names_trimmed,
    names_of_whole (slash_not_mem_lastStep (trimmed name)), if_neg]
  simpa using lastStep_ne_nil apart

/-- What stands before the last step begins where the name does. -/
theorem isAbsolute_parent
    {name : Bytes}
    (some : parent name ≠ []) :
    isAbsolute (trimmed (parent name)) = isAbsolute name := by
  rw [isAbsolute_trimmed, ← isAbsolute_trimmed name, ← parent_append name]
  cases head : parent name with
  | nil =>
      exact absurd head some
  | cons byte rest =>
      rfl

/-- What stands before the last step is shorter than the name. -/
theorem length_parent_lt
    {name : Bytes}
    (apart : parent name ≠ trimmed name) :
    (trimmed (parent name)).length < name.length := by
  have whole := congrArg List.length (parent_append name)
  have last : 0 < (lastStep (trimmed name)).length :=
    List.length_pos_iff.2 (lastStep_ne_nil apart)
  have shorter := length_trimmed_le (parent name)
  have short := length_trimmed_le name
  rw [List.length_append] at whole
  omega

/-- The name of a place below another has the steps of both. -/
theorem names_join
    (directory : Bytes)
    {name : Bytes}
    (relative : isAbsolute name = false) :
    names (join directory name) = names directory ++ names name := by
  unfold join
  rw [relative, if_neg (by decide)]
  split
  next empty =>
    rw [List.isEmpty_iff] at empty
    rw [empty]
    rfl
  next =>
    split
    next ended =>
      obtain ⟨before, rfl⟩ := List.getLast?_eq_some_iff.1 (eq_of_beq ended)
      rw [List.append_assoc, List.singleton_append, names_append_slash, names_append_slash]
      exact congrArg (· ++ _) (List.append_nil _).symm
    next =>
      exact names_append_slash directory name

/-- The name of a place below another begins where the name of that other one does. -/
theorem isAbsolute_join
    (directory : Bytes)
    {name : Bytes}
    (relative : isAbsolute name = false) :
    isAbsolute (join directory name) = isAbsolute directory := by
  unfold join
  rw [relative, if_neg (by decide)]
  cases directory with
  | nil =>
      exact relative
  | cons byte rest =>
      rw [if_neg (by simp)]
      split <;> rfl

/-- The name of a place below another ends with what the place is called there. -/
theorem exists_join_eq_append (directory name : Bytes) :
    ∃ front, join directory name = front ++ name := by
  unfold join
  split
  · exact ⟨[], rfl⟩
  · split
    · exact ⟨[], rfl⟩
    · split
      · exact ⟨directory, rfl⟩
      · exact ⟨directory ++ [slash], by simp⟩

/-- The name of something in a directory does not end in a slash. -/
theorem IsPlain.getLast?_join
    {child : Bytes}
    (plain : IsPlain child)
    (directory : Bytes) :
    (join directory child).getLast? ≠ some slash := by
  obtain ⟨front, split⟩ := exists_join_eq_append directory child
  rw [split, List.getLast?_append_of_ne_nil _ plain.named,
    List.getLast?_eq_some_getLast plain.named]
  have last := List.getLast_mem plain.named
  have apart : child.getLast plain.named ≠ slash := fun same => plain.whole (same ▸ last)
  simpa using apart

/-- The steps to what is named in a directory are those to the directory, and one more. -/
theorem IsPlain.steps_join
    {child : Bytes}
    (plain : IsPlain child)
    (directory : Bytes) :
    steps (join directory child) = names directory ++ [child] := by
  have shape : steps (join directory child) =
      if !(names (join directory child)).isEmpty &&
        (join directory child).getLast? == some slash
      then names (join directory child) ++ [here]
      else names (join directory child) :=
    rfl
  have ended : ((join directory child).getLast? == some slash) = false :=
    beq_false_of_ne (plain.getLast?_join directory)
  rw [shape, ended, Bool.and_false, if_neg (by decide), names_join directory
    plain.not_isAbsolute, plain.names_eq]

/-- There is nothing to trim about a name that does not end in a slash. -/
theorem IsPlain.trimmed_join
    {child : Bytes}
    (plain : IsPlain child)
    (directory : Bytes) :
    trimmed (join directory child) = join directory child := by
  have ended := plain.getLast?_join directory
  generalize join directory child = name at ended
  unfold trimmed
  rw [List.getLast?_eq_head?_reverse] at ended
  cases shape : name.reverse with
  | nil =>
      rw [List.reverse_eq_nil_iff] at shape
      rw [shape]
      rfl
  | cons byte rest =>
      rw [shape] at ended
      have apart : (byte == slash) = false := beq_false_of_ne (by simpa using ended)
      rw [List.dropWhile_cons_of_neg (by simp [apart]), ← shape, List.reverse_reverse]
      simp only [ite_eq_right_iff]
      intro empty
      simp at empty

end CompilePlayground.Posix.Path
