import CompilePlayground.Proofs.Options.Values

namespace CompilePlayground.Options

/-!
# Command lines of settings

A setting is an option that is written in one argument, with its value behind an equals sign, or
the switch alone. Reading a list of them checks the values one after the other and records each
under its option.
-/

/-- An option that is set by one argument. -/
inductive Setting where
  | value (flag : Flag) (takes : flag.takesValue = true) (raw : Bytes)
  | switch

namespace Setting

/-- The option that is set. -/
def flag : Setting → Flag
  | value flag _ _ => flag
  | switch => .allowRoot

/-- The value that the option is given. -/
def raw : Setting → Bytes
  | value _ _ raw => raw
  | switch => Text.Utf8.encode "true"

/-- The argument that sets the option. -/
def written : Setting → Bytes
  | value flag _ raw => [45, 45] ++ Text.Utf8.encode flag.name ++ 61 :: raw
  | switch => [45, 45] ++ Text.Utf8.encode Flag.allowRoot.name

/-- The arguments that set some options. -/
def arguments (settings : List Setting) : List Bytes :=
  settings.map written

/-- The raw values that an option is given. -/
def given (settings : List Setting) (flag : Flag) : List Bytes :=
  (settings.filter fun setting => setting.flag = flag).map raw

/-- No option is set twice but those that may be repeated. -/
def SetOnce (settings : List Setting) : Prop :=
  ∀ flag : Flag, flag.repeats = false → (given settings flag).length ≤ 1

variable {settings done : List Setting} {setting : Setting} {flag : Flag}

theorem given_append (first second : List Setting) (flag : Flag) :
    given (first ++ second) flag = given first flag ++ given second flag := by
  simp [given]

theorem given_singleton (setting : Setting) (flag : Flag) :
    given [setting] flag = if setting.flag = flag then [setting.raw] else [] := by
  unfold given
  split <;> simp [*]

/-- An option that is set is given its value. -/
theorem raw_mem_given (member : setting ∈ settings) :
    setting.raw ∈ given settings setting.flag := by
  unfold given
  exact List.mem_map_of_mem (List.mem_filter.2 ⟨member, by simp⟩)

/-- What is set once before is not set again, unless it may be repeated. -/
theorem SetOnce.given_eq_nil
    (once : SetOnce (done ++ setting :: settings))
    (single : setting.flag.repeats = false) :
    given done setting.flag = [] := by
  have most := once setting.flag single
  rw [← List.singleton_append, given_append, given_append, given_singleton, if_pos rfl] at most
  simp only [List.length_append, List.length_singleton] at most
  rw [← List.length_eq_zero_iff]
  omega

end Setting

namespace Flag

/-- The name of an option leads to it. -/
theorem ofName?_name (flag : Flag) : ofName? flag.name = some flag := by
  cases flag <;> decide

theorem equals_not_mem_name (flag : Flag) : 61 ∉ Text.Utf8.encode flag.name := by
  cases flag <;> decide

theorem name_ne_nil (flag : Flag) : Text.Utf8.encode flag.name ≠ [] := by
  cases flag <;> decide

end Flag

namespace CommandLine

variable {line : CommandLine} {flag : Flag}

/-- A name ends at the first equals sign. -/
theorem splitEquals_append
    {name : Bytes}
    (free : 61 ∉ name)
    (value : Bytes) :
    splitEquals (name ++ 61 :: value) = (name, some value) := by
  induction name with
  | nil =>
      rfl
  | cons byte rest inductionHypothesis =>
      rw [List.mem_cons, not_or] at free
      rw [List.cons_append, splitEquals, if_neg (Ne.symm free.1), inductionHypothesis free.2]

/-- What holds no equals sign is a name without a value. -/
theorem splitEquals_of_not_mem
    {name : Bytes}
    (free : 61 ∉ name) :
    splitEquals name = (name, none) := by
  induction name with
  | nil =>
      rfl
  | cons byte rest inductionHypothesis =>
      rw [List.mem_cons, not_or] at free
      rw [splitEquals, if_neg (Ne.symm free.1), inductionHypothesis free.2]

/-- An option that values are recorded for has them after those that it had, and no other option
has other values. -/
theorem values?_record (line : CommandLine) (flag other : Flag) (values : List Bytes) :
    (line.record flag values).values? other =
      if other = flag then some ((line.values? flag).getD [] ++ values)
      else line.values? other := by
  unfold record
  split
  next before =>
    let add (entry : Flag × List Bytes) : Flag × List Bytes :=
      if entry.1 == flag then (entry.1, entry.2 ++ values) else entry
    have kept (entry : Flag × List Bytes) : (add entry).1 = entry.1 := by
      simp only [add]
      split <;> rfl
    have found : ({ line with given := line.given.map add } : CommandLine).values? other =
        (line.given.find? (·.1 == other)).map fun entry => (add entry).2 := by
      unfold values?
      simp only [List.find?_map, Function.comp_def, kept, Option.map_map]
    refine found.trans ?_
    unfold values? at before ⊢
    cases looked : line.given.find? (·.1 == other) with
    | none =>
        have apart : other ≠ flag := by
          rintro rfl
          rw [looked] at before
          cases before
        rw [if_neg apart]
        rfl
    | some entry =>
        have named : entry.1 = other := by
          simpa using List.find?_some looked
        split
        next same =>
          subst same
          simp [add, named, looked]
        next apart =>
          simp [add, named, apart]
  next before =>
    rw [Option.not_isSome_iff_eq_none] at before
    rw [before]
    unfold values? at before ⊢
    rw [List.find?_append]
    split
    next same =>
      subst same
      rw [Option.map_eq_none_iff] at before
      simp [before]
    next apart =>
      simp [Ne.symm apart]

/-- A line on which nothing is pending stays as it is. -/
theorem settled_of_pending (nothing : line.pending? = none) : line.settled = .ok line := by
  obtain ⟨given, pending?, ended⟩ := line
  cases nothing
  rfl

/-- An argument that names an option in full is read as one while no value is expected. -/
theorem read_long
    (goesOn : line.ended = false)
    (idle : line.takesAnything = false)
    (name : Bytes)
    (named : name ≠ []) :
    line.read (45 :: 45 :: name) = line.readLong name := by
  unfold CommandLine.read
  obtain ⟨byte, rest, rfl⟩ := List.exists_cons_of_ne_nil named
  simp [goesOn, idle]

/-- A setting is read as an option that has its value with it. -/
theorem read_written
    (goesOn : line.ended = false)
    (idle : line.takesAnything = false)
    (setting : Setting) :
    line.read setting.written = line.giveAttached setting.flag setting.raw := by
  cases setting with
  | value flag takes raw =>
      refine (read_long goesOn idle (Text.Utf8.encode flag.name ++ 61 :: raw) (by simp)).trans ?_
      unfold readLong
      simp only [splitEquals_append flag.equals_not_mem_name, Text.Utf8.decodeLossy_encode,
        flag.ofName?_name, takes, if_true]
      rfl
  | switch =>
      refine (read_long goesOn idle _ (Flag.name_ne_nil _)).trans ?_
      unfold readLong
      simp only [splitEquals_of_not_mem (Flag.equals_not_mem_name _),
        Text.Utf8.decodeLossy_encode, Flag.ofName?_name]
      rfl

/-- Recording values changes neither what is pending nor whether options have ended. -/
theorem record_frame (line : CommandLine) (flag : Flag) (values : List Bytes) :
    (line.record flag values).pending? = line.pending? ∧
      (line.record flag values).ended = line.ended := by
  unfold record
  split <;> exact ⟨rfl, rfl⟩

/-- A line that holds what some settings give, and nothing else. -/
structure Reflects (line : CommandLine) (settings : List Setting) : Prop where
  pending : line.pending? = none
  goesOn : line.ended = false
  values : ∀ flag, line.values? flag =
    if Setting.given settings flag = [] then none
    else some ((Setting.given settings flag).flatMap flag.pieces)

/-- Nothing is on a line that nothing is read of. -/
theorem Reflects.start : Reflects start [] :=
  ⟨rfl, rfl, fun _ => rfl⟩

variable {settings done : List Setting} {setting : Setting}

namespace Reflects

/-- Nothing is pending on the line. -/
theorem settled (reflects : line.Reflects done) : line.settled = .ok line :=
  settled_of_pending reflects.pending

/-- An option that may be set takes its value if the value passes the check. -/
theorem giveAttached
    (reflects : line.Reflects done)
    (fresh : flag.repeats = false → Setting.given done flag = [])
    (raw : Bytes) :
    line.giveAttached flag raw =
      (flag.checkAll (flag.pieces raw)).map fun _ => line.record flag (flag.pieces raw) := by
  have free : ((line.values? flag).isSome && !flag.repeats) = false := by
    cases repeats : flag.repeats with
    | true =>
        simp
    | false =>
        simp [reflects.values flag, fresh repeats]
  unfold CommandLine.giveAttached
  rw [reflects.settled]
  simp only [give, free, Bool.false_eq_true, if_false]
  cases flag.checkAll (flag.pieces raw) <;> rfl

/-- A setting is read by checking its value. -/
theorem read_written
    (reflects : line.Reflects done)
    (fresh : setting.flag.repeats = false → Setting.given done setting.flag = []) :
    line.read setting.written =
      (setting.flag.checkAll (setting.flag.pieces setting.raw)).map fun _ =>
        line.record setting.flag (setting.flag.pieces setting.raw) := by
  have idle : line.takesAnything = false := by
    simp [takesAnything, reflects.pending]
  rw [CommandLine.read_written reflects.goesOn idle]
  exact reflects.giveAttached fresh setting.raw

/-- A line on which one more setting is recorded. -/
theorem record (reflects : line.Reflects done) (setting : Setting) :
    (line.record setting.flag (setting.flag.pieces setting.raw)).Reflects
      (done ++ [setting]) := by
  have same := line.record_frame setting.flag (setting.flag.pieces setting.raw)
  refine ⟨same.1.trans reflects.pending, same.2.trans reflects.goesOn, ?_⟩
  intro flag
  rw [values?_record, Setting.given_append, Setting.given_singleton, reflects.values,
    reflects.values]
  by_cases own : flag = setting.flag
  · subst own
    by_cases unset : Setting.given done setting.flag = [] <;> simp [unset]
  · simp [own, Ne.symm own]

end Reflects

/-- What is read of settings is what they give. -/
theorem reflects_of_readAll
    {last : CommandLine}
    (reflects : line.Reflects done)
    (once : Setting.SetOnce (done ++ settings))
    (read : line.readAll (Setting.arguments settings) = .ok last) :
    last.Reflects (done ++ settings) := by
  induction settings generalizing line done with
  | nil =>
      have same : line.settled = .ok last := read
      rw [reflects.settled] at same
      cases same
      rwa [List.append_nil]
  | cons setting rest inductionHypothesis =>
      rw [Setting.arguments, List.map_cons, readAll,
        reflects.read_written once.given_eq_nil] at read
      cases checked : setting.flag.checkAll (setting.flag.pieces setting.raw) with
      | error failure =>
          rw [checked] at read
          cases read
      | ok =>
          rw [checked] at read
          rw [List.append_cons] at once ⊢
          exact inductionHypothesis (reflects.record setting) once read

/-- Settings are read when all their values pass the check. -/
theorem readAll_of_checked
    (reflects : line.Reflects done)
    (once : Setting.SetOnce (done ++ settings))
    (checked : ∀ setting ∈ settings,
      setting.flag.checkAll (setting.flag.pieces setting.raw) = .ok ()) :
    ∃ last, line.readAll (Setting.arguments settings) = .ok last := by
  induction settings generalizing line done with
  | nil =>
      exact ⟨line, reflects.settled⟩
  | cons setting rest inductionHypothesis =>
      rw [List.forall_mem_cons] at checked
      rw [Setting.arguments, List.map_cons, readAll,
        reflects.read_written once.given_eq_nil, checked.1]
      rw [List.append_cons] at once
      exact inductionHypothesis (reflects.record setting) once checked.2

end CommandLine

end CompilePlayground.Options
