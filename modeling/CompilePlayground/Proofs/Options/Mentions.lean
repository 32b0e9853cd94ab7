import CompilePlayground.Proofs.Options.Resolution

namespace CompilePlayground.Options

/-!
# Options as they are written

The value of an option stands behind an equals sign or in an argument of its own. The second way
comes to the same as the first wherever it is read at all: an option that may be repeated takes any
argument for its value, and any other option takes what does not look like an option itself.
-/

/-- One use of an option on the command line. -/
inductive Mention where
  | joined (setting : Setting)
  | apart (flag : Flag) (takes : flag.takesValue = true) (raw : Bytes)

namespace Mention

/-- What the option is set to. -/
def setting : Mention → Setting
  | joined setting => setting
  | apart flag takes raw => .value flag takes raw

/-- The arguments that are written. -/
def written : Mention → List Bytes
  | joined setting => [setting.written]
  | apart flag _ raw => [[45, 45] ++ Text.Utf8.encode flag.name, raw]

/-- The arguments of a command line. -/
def arguments (mentions : List Mention) : List Bytes :=
  mentions.flatMap written

/-- An argument that is taken for an option unless any argument is taken for a value: a hyphen
alone is none. -/
def LooksLikeOption (raw : Bytes) : Prop :=
  ∃ byte rest, raw = 45 :: byte :: rest

/-- The value is taken where it is written. -/
def Stands : Mention → Prop
  | joined _ => True
  | apart flag _ raw => flag.repeats = true ∨ ¬LooksLikeOption raw

end Mention

namespace CommandLine

/-- A line on which an option is pending, with or without its value. -/
def awaiting (line : CommandLine) (flag : Flag) (value? : Option Bytes) : CommandLine :=
  { line with pending? := some ⟨flag, value?⟩ }

/-- A line on which what looks like an option is read as one. -/
structure ReadsOptions (line : CommandLine) : Prop where
  goesOn : line.ended = false
  idle : line.takesAnything = false

variable {line next last : CommandLine} {flag : Flag} {raw : Bytes}

/-- An option is given its value without a change to what is pending. -/
theorem frame_of_give (gives : (line.give flag raw).2 = .ok ()) :
    (line.give flag raw).1.pending? = line.pending? ∧
      (line.give flag raw).1.ended = line.ended := by
  unfold give at gives ⊢
  split at gives
  · cases gives
  next taken =>
    rw [if_neg taken]
    exact line.record_frame flag _

/-- Once the pending option has its value nothing is pending. -/
theorem frame_of_settled (settles : line.settled = .ok next) :
    next.pending? = none ∧ next.ended = line.ended := by
  unfold settled at settles
  split at settles
  next settled isSettled =>
    cases settles
    unfold settle at isSettled
    simp only at isSettled
    split at isSettled
    · cases isSettled
      exact ⟨rfl, rfl⟩
    · cases isSettled
    next flag value _ =>
      have kept := @frame_of_give { line with pending? := none } flag value (by rw [isSettled])
      rwa [isSettled] at kept
  · cases settles

section Waiting

/-! An option that waits for its value keeps the line from going on without it. -/

variable (line : CommandLine) (flag : Flag)

theorem settled_awaiting_none : (line.awaiting flag none).settled = .error (.missing flag) :=
  rfl

theorem help_awaiting_none : (line.awaiting flag none).help = .error (.missing flag) := by
  unfold help
  rw [settled_awaiting_none]

theorem giveAttached_awaiting_none (other : Flag) (value : Bytes) :
    (line.awaiting flag none).giveAttached other value = .error (.missing flag) := by
  unfold giveAttached
  rw [settled_awaiting_none]

theorem readLong_awaiting_none (name : Bytes) :
    (line.awaiting flag none).readLong name ≠ .ok next := by
  unfold readLong
  simp only [giveAttached_awaiting_none, help_awaiting_none, settled_awaiting_none, Except.map]
  repeat' split
  all_goals nofun

theorem readShort_awaiting_none (first : UInt8) (rest : Bytes) :
    (line.awaiting flag none).readShort first rest ≠ .ok next := by
  unfold readShort
  simp only [help_awaiting_none]
  repeat' split
  all_goals nofun

end Waiting

/-- The value in an argument of its own is given as one that is written with its option. -/
theorem settled_awaiting_some (nothing : line.pending? = none) (flag : Flag) (raw : Bytes) :
    (line.awaiting flag (some raw)).settled = line.giveAttached flag raw := by
  obtain ⟨given, pending?, ended⟩ := line
  cases nothing
  rfl

/-- An option is given its value once the pending option has its own. -/
theorem giveAttached_eq_ok_iff :
    line.giveAttached flag raw = .ok last ↔
      ∃ next, line.settled = .ok next ∧ next.giveAttached flag raw = .ok last := by
  cases settles : line.settled with
  | error failure =>
      unfold giveAttached
      rw [settles]
      simp
  | ok next =>
      have same : line.giveAttached flag raw = next.giveAttached flag raw := by
        unfold giveAttached
        rw [settles, settled_of_pending (frame_of_settled settles).1]
      simp [same]

/-- A line is read by reading its first argument and then the others. -/
theorem readAll_cons_iff {first : Bytes} {rest : List Bytes} :
    line.readAll (first :: rest) = .ok last ↔
      ∃ after, line.read first = .ok after ∧ after.readAll rest = .ok last := by
  rw [readAll]
  cases line.read first <;> simp

namespace ReadsOptions

theorem of_pending (goesOn : line.ended = false) (nothing : line.pending? = none) :
    line.ReadsOptions :=
  ⟨goesOn, by simp [takesAnything, nothing]⟩

/-- A value that is there is not waited for. -/
theorem awaiting_some (reads : line.ReadsOptions) (flag : Flag) (raw : Bytes) :
    (line.awaiting flag (some raw)).ReadsOptions :=
  ⟨reads.goesOn, by simp [takesAnything, awaiting]⟩

theorem of_settled (reads : line.ReadsOptions) (settles : line.settled = .ok next) :
    next.ReadsOptions ∧ next.settled = .ok next := by
  obtain ⟨nothing, same⟩ := frame_of_settled settles
  exact ⟨of_pending (same.trans reads.goesOn) nothing, settled_of_pending nothing⟩

/-- The name of an option that has a value makes it wait for the value. -/
theorem read_name (reads : line.ReadsOptions) (takes : flag.takesValue = true) :
    line.read ([45, 45] ++ Text.Utf8.encode flag.name) =
      line.settled.map fun next => next.awaiting flag none := by
  refine (read_long reads.goesOn reads.idle _ flag.name_ne_nil).trans ?_
  unfold readLong
  simp only [splitEquals_of_not_mem flag.equals_not_mem_name, Text.Utf8.decodeLossy_encode,
    flag.ofName?_name, takes, if_true]
  rfl

/-- What does not look like an option, or is read where anything is a value, is the value that an
option waits for. -/
theorem read_of_stands
    (reads : line.ReadsOptions)
    (stands : flag.repeats = true ∨ ¬Mention.LooksLikeOption raw) :
    (line.awaiting flag none).read raw = .ok (line.awaiting flag (some raw)) := by
  have valued : (line.awaiting flag none).readValue raw = .ok (line.awaiting flag (some raw)) :=
    rfl
  have expects : (line.awaiting flag none).takesAnything = flag.repeats := by
    simp [takesAnything, awaiting]
  have goes : (line.awaiting flag none).ended = false := reads.goesOn
  unfold read
  rw [goes, expects]
  rcases stands with repeats | plain
  · rw [if_neg Bool.false_ne_true, if_pos repeats]
    exact valued
  · split
    · contradiction
    split
    · exact valued
    split
    · exact absurd ⟨45, [], rfl⟩ plain
    · exact absurd ⟨45, _, rfl⟩ plain
    · exact absurd ⟨_, _, rfl⟩ plain
    · exact valued

/-- What looks like an option leaves one that waits for its value without it, and nothing is read
of the line. -/
theorem readAll_ne_ok
    (reads : line.ReadsOptions)
    (single : flag.repeats = false)
    (looks : Mention.LooksLikeOption raw)
    (more : List Bytes) :
    (line.awaiting flag none).readAll (raw :: more) ≠ .ok last := by
  have expects : (line.awaiting flag none).takesAnything = false := by
    simp [takesAnything, awaiting, single]
  have goes : (line.awaiting flag none).ended = false := reads.goesOn
  obtain ⟨byte, rest, rfl⟩ := looks
  rw [ne_eq, readAll_cons_iff]
  rintro ⟨next, reads, all⟩
  unfold read at reads
  simp only [goes, expects, Bool.false_eq_true, if_false] at reads
  split at reads
  next same =>
    -- After a double hyphen no argument can be the value any more.
    cases reads
    cases more with
    | nil =>
        cases all
    | cons =>
        unfold readAll read at all
        cases all
  next =>
    exact readLong_awaiting_none line flag _ reads
  next =>
    exact readShort_awaiting_none line flag _ _ reads
  next other =>
    exact absurd rfl (other byte rest)

end ReadsOptions

/-- An option is given its value on a line that is read on. -/
theorem ReadsOptions.of_giveAttached
    (reads : line.ReadsOptions)
    (gives : line.giveAttached flag raw = .ok next) :
    next.ReadsOptions ∧ next.settled = .ok next := by
  obtain ⟨before, settles, gives⟩ := giveAttached_eq_ok_iff.1 gives
  rw [← settled_awaiting_some (frame_of_settled settles).1] at gives
  exact ((reads.of_settled settles).1.awaiting_some flag raw).of_settled gives

/-- What is written with its option is read by giving it to the option. -/
theorem readAll_joined_iff
    (reads : line.ReadsOptions)
    {setting : Setting}
    {rest : List Bytes} :
    line.readAll (setting.written :: rest) = .ok last ↔
      ∃ after, line.giveAttached setting.flag setting.raw = .ok after ∧
        after.readAll rest = .ok last := by
  rw [readAll_cons_iff, read_written reads.goesOn reads.idle]

/-- What is written in an argument of its own is read by giving it to the option later, if it
stands there. -/
theorem readAll_apart_iff
    (reads : line.ReadsOptions)
    (takes : flag.takesValue = true)
    {rest : List Bytes} :
    line.readAll (([45, 45] ++ Text.Utf8.encode flag.name) :: raw :: rest) = .ok last ↔
      (flag.repeats = true ∨ ¬Mention.LooksLikeOption raw) ∧
        ∃ next, line.settled = .ok next ∧
          (next.awaiting flag (some raw)).readAll rest = .ok last := by
  rw [readAll_cons_iff, reads.read_name takes]
  cases settles : line.settled with
  | error failure =>
      simp [Except.map]
  | ok next =>
      obtain ⟨readsOn, _⟩ := reads.of_settled settles
      simp only [Except.map, Except.ok.injEq, exists_eq_left']
      constructor
      · intro all
        have stands : flag.repeats = true ∨ ¬Mention.LooksLikeOption raw := by
          by_contra fails
          rw [not_or, Bool.not_eq_true, not_not] at fails
          exact readsOn.readAll_ne_ok fails.1 fails.2 rest all
        rw [readAll_cons_iff, readsOn.read_of_stands stands] at all
        obtain ⟨after, ⟨⟩, all⟩ := all
        exact ⟨stands, all⟩
      · rintro ⟨stands, all⟩
        rw [readAll_cons_iff, readsOn.read_of_stands stands]
        exact ⟨_, rfl, all⟩

/-- A command line is read exactly when all values stand where they are written and it is read as
if they were written with their options. -/
theorem readAll_arguments_iff
    (reads : line.ReadsOptions)
    (mentions : List Mention) :
    line.readAll (Mention.arguments mentions) = .ok last ↔
      (∀ mention ∈ mentions, mention.Stands) ∧ ∃ next, line.settled = .ok next ∧
        next.readAll (Setting.arguments (mentions.map Mention.setting)) = .ok last := by
  induction mentions generalizing line with
  | nil =>
      simp only [Mention.arguments, Setting.arguments, List.flatMap_nil, List.map_nil, readAll]
      constructor
      · intro settles
        exact ⟨List.forall_mem_nil _, last, settles, (reads.of_settled settles).2⟩
      · rintro ⟨_, next, settles, same⟩
        rw [(reads.of_settled settles).2] at same
        cases same
        exact settles
  | cons mention mentions inductionHypothesis =>
      -- Written with its option, the value is given on the line once that is settled.
      have alone {next : CommandLine} (settles : line.settled = .ok next) :
          next.readAll (Setting.arguments ((mention :: mentions).map Mention.setting)) = .ok last ↔
            ∃ after, next.giveAttached mention.setting.flag mention.setting.raw = .ok after ∧
              after.readAll (Setting.arguments (mentions.map Mention.setting)) = .ok last :=
        readAll_joined_iff (reads.of_settled settles).1
      rw [List.forall_mem_cons]
      cases mention with
      | joined setting =>
          refine (readAll_joined_iff reads).trans ?_
          constructor
          · rintro ⟨after, gives, all⟩
            obtain ⟨readsOn, settled⟩ := reads.of_giveAttached gives
            obtain ⟨stands, _, same, all⟩ := (inductionHypothesis readsOn).1 all
            rw [settled] at same
            cases same
            obtain ⟨next, settles, gives⟩ := giveAttached_eq_ok_iff.1 gives
            exact ⟨⟨trivial, stands⟩, next, settles, (alone settles).2 ⟨after, gives, all⟩⟩
          · rintro ⟨⟨_, stands⟩, next, settles, all⟩
            obtain ⟨after, gives, all⟩ := (alone settles).1 all
            obtain ⟨readsOn, settled⟩ := (reads.of_settled settles).1.of_giveAttached gives
            exact ⟨after, giveAttached_eq_ok_iff.2 ⟨next, settles, gives⟩,
              (inductionHypothesis readsOn).2 ⟨stands, after, settled, all⟩⟩
      | apart flag takes raw =>
          refine (readAll_apart_iff reads takes).trans ?_
          rw [and_assoc]
          refine and_congr_right fun _ => ?_
          constructor
          · rintro ⟨next, settles, all⟩
            have readsOn := (reads.of_settled settles).1.awaiting_some flag raw
            obtain ⟨stands, after, gives, all⟩ := (inductionHypothesis readsOn).1 all
            rw [settled_awaiting_some (frame_of_settled settles).1] at gives
            exact ⟨stands, next, settles, (alone settles).2 ⟨after, gives, all⟩⟩
          · rintro ⟨stands, next, settles, all⟩
            have readsOn := (reads.of_settled settles).1.awaiting_some flag raw
            obtain ⟨after, gives, all⟩ := (alone settles).1 all
            refine ⟨next, settles, (inductionHypothesis readsOn).2 ⟨stands, after, ?_, all⟩⟩
            rw [settled_awaiting_some (frame_of_settled settles).1]
            exact gives

/-- Of an option that may not be repeated only one use is read. -/
theorem setOnce_of_readAll
    {settings done : List Setting}
    (reflects : line.Reflects done)
    (once : Setting.SetOnce done)
    (read : line.readAll (Setting.arguments settings) = .ok last) :
    Setting.SetOnce (done ++ settings) := by
  induction settings generalizing line done with
  | nil =>
      rwa [List.append_nil]
  | cons setting settings inductionHypothesis =>
      have reads := ReadsOptions.of_pending reflects.goesOn reflects.pending
      obtain ⟨after, gives, read⟩ := (readAll_joined_iff reads).1 read
      have fresh (single : setting.flag.repeats = false) :
          Setting.given done setting.flag = [] := by
        by_contra set
        have taken : ((line.values? setting.flag).isSome && !setting.flag.repeats) = true := by
          simp [reflects.values setting.flag, set, single]
        unfold giveAttached give at gives
        rw [reflects.settled] at gives
        simp only [taken, if_true] at gives
        cases gives
      have onceMore : Setting.SetOnce (done ++ [setting]) := by
        intro flag single
        rw [Setting.given_append, Setting.given_singleton]
        by_cases own : setting.flag = flag
        · subst own
          simp [fresh single]
        · simpa [own] using once flag single
      rw [reflects.giveAttached fresh] at gives
      cases checked : setting.flag.checkAll (setting.flag.pieces setting.raw) with
      | error failure =>
          rw [checked] at gives
          cases gives
      | ok =>
          rw [checked] at gives
          cases gives
          rw [List.append_cons]
          exact inductionHypothesis (reflects.record setting) onceMore read

theorem readsOptions_start : start.ReadsOptions :=
  .of_pending rfl rfl

/-- A whole command line is read as one of settings, if all values stand where they are written. -/
theorem start_readAll_arguments_iff {mentions : List Mention} :
    start.readAll (Mention.arguments mentions) = .ok last ↔
      (∀ mention ∈ mentions, mention.Stands) ∧
        start.readAll (Setting.arguments (mentions.map Mention.setting)) = .ok last := by
  rw [readAll_arguments_iff readsOptions_start]
  refine and_congr_right fun _ => ?_
  have settles : start.settled = .ok start := rfl
  simp [settles]

end CommandLine

end CompilePlayground.Options

namespace CompilePlayground.Config

open Options

variable {environment : Environment} {mentions : List Mention} {config : Config}

/-- A configuration is read of a command line that can be read. -/
theorem read_eq_ok {arguments : List Bytes} :
    read environment arguments = .ok config ↔
      ∃ line, CommandLine.start.readAll arguments = .ok line ∧
        ofValues (effective line environment) = .ok config := by
  unfold read
  cases CommandLine.start.readAll arguments <;> simp

/-- A command line makes a configuration exactly when every value stands where it is written, no
option is set twice that may not be repeated, and the fields are what counts for their options. -/
theorem read_arguments_eq_ok_iff :
    read environment (Mention.arguments mentions) = .ok config ↔
      (∀ mention ∈ mentions, mention.Stands) ∧
        Setting.SetOnce (mentions.map Mention.setting) ∧
          ∀ flag : Flag, flag.Means
            (counting environment (mentions.map Mention.setting) flag) (config.field flag) := by
  have settings : read environment (Mention.arguments mentions) = .ok config ↔
      (∀ mention ∈ mentions, mention.Stands) ∧
        read environment (Setting.arguments (mentions.map Mention.setting)) = .ok config := by
    rw [read_eq_ok, read_eq_ok]
    simp only [CommandLine.start_readAll_arguments_iff, and_assoc, exists_and_left]
  rw [settings]
  refine and_congr_right fun _ => ?_
  constructor
  · intro made
    obtain ⟨line, all, _⟩ := read_eq_ok.1 made
    have once : Setting.SetOnce (mentions.map Mention.setting) :=
      CommandLine.setOnce_of_readAll .start (fun _ _ => Nat.zero_le _) all
    exact ⟨once, (read_eq_ok_iff once).1 made⟩
  · rintro ⟨once, means⟩
    exact (read_eq_ok_iff once).2 means

/-- The field of an option is what counts for it, on every command line that is read. -/
theorem field_of_means
    {flag : Flag}
    {value : flag.Value}
    (means : flag.Means
      (counting environment (mentions.map Mention.setting) flag) value)
    (made : read environment (Mention.arguments mentions) = .ok config) :
    config.field flag = value := by
  obtain ⟨_, once, fields⟩ := read_arguments_eq_ok_iff.1 made
  exact means_unique once (fields flag) means

/-- An option for which an acceptable value counts leaves it to the others whether there is a
configuration. -/
theorem exists_read_arguments_iff
    {flag : Flag}
    {value : flag.Value}
    (means : flag.Means
      (counting environment (mentions.map Mention.setting) flag) value) :
    (∃ config, read environment (Mention.arguments mentions) = .ok config) ↔
      (∀ mention ∈ mentions, mention.Stands) ∧ Setting.SetOnce (mentions.map Mention.setting) ∧
        ∀ other : Flag, other ≠ flag → ∃ value, other.Means
          (counting environment (mentions.map Mention.setting) other) value := by
  constructor
  · rintro ⟨config, made⟩
    obtain ⟨stands, once, fields⟩ := read_arguments_eq_ok_iff.1 made
    exact ⟨stands, once, fun other _ => ⟨config.field other, fields other⟩⟩
  · rintro ⟨stands, once, others⟩
    have acceptable : ∀ other : Flag, ∃ value, other.Means
        (counting environment (mentions.map Mention.setting) other) value := by
      intro other
      by_cases own : other = flag
      · subst own
        exact ⟨value, means⟩
      · exact others other own
    obtain ⟨config, made⟩ := (exists_read_iff once).2 acceptable
    exact ⟨config, read_arguments_eq_ok_iff.2 ⟨stands, once, (read_eq_ok_iff once).1 made⟩⟩

/-- The variable of an option that is on the command line has no influence, on a failure either. -/
theorem read_update
    {flag : Flag}
    (set : Setting.given (mentions.map Mention.setting) flag ≠ [])
    (environment : Environment)
    (value? : Option Bytes) :
    read (Function.update environment flag value?) (Mention.arguments mentions) =
      read environment (Mention.arguments mentions) := by
  unfold read
  split
  next =>
    rfl
  next line all =>
    have settings := (CommandLine.start_readAll_arguments_iff.1 all).2
    have once : Setting.SetOnce (mentions.map Mention.setting) :=
      CommandLine.setOnce_of_readAll .start (fun _ _ => Nat.zero_le _) settings
    have reflects := CommandLine.reflects_of_readAll .start once settings
    have same : effective line (Function.update environment flag value?) =
        effective line environment := by
      funext other
      rw [effective_eq reflects, effective_eq reflects]
      refine congrArg (List.flatMap other.pieces) (counting_congr fun unset => ?_)
      have apart : other ≠ flag := by
        rintro rfl
        exact set unset
      rw [Function.update_of_ne apart]
    rw [same]

end CompilePlayground.Config

namespace CompilePlayground.Options

/-- Flags for the compiler are the value of their option. -/
theorem Flag.takesValue_compilerFlags : Flag.compilerFlags.takesValue = true :=
  rfl

/-- Flags for the compiler as one value. -/
def Flag.joined (flags : List String) : Bytes :=
  [comma].intercalate (flags.map Text.Utf8.encode)

/-- Flags for the compiler are given on the command line, in groups that stand among the other
options, or else in the variable. -/
inductive Gives (environment : Environment) (mentions : List Mention) : List String → Prop where
  | onLine
      (groups : List (List String))
      (nonempty : groups ≠ [])
      (full : ∀ group ∈ groups, group ≠ [])
      (given : Setting.given (mentions.map Mention.setting) .compilerFlags =
        groups.map Flag.joined) :
      Gives environment mentions groups.flatten
  | inVariable
      (flags : List String)
      (nonempty : flags ≠ [])
      (unset : Setting.given (mentions.map Mention.setting) .compilerFlags = [])
      (value : environment .compilerFlags = some (Flag.joined flags)) :
      Gives environment mentions flags

/-- Flags without commas are what counts for the option. -/
theorem means_of_gives
    {environment : Environment}
    {mentions : List Mention}
    {flags : List String}
    (gives : Gives environment mentions flags)
    (commaless : ∀ flag ∈ flags, ',' ∉ flag.toList) :
    Flag.compilerFlags.Means
      (Config.counting environment (mentions.map Mention.setting) .compilerFlags) flags := by
  unfold Config.counting
  cases gives with
  | onLine groups nonempty full given =>
      rw [given]
      obtain ⟨group, others, rfl⟩ := List.exists_cons_of_ne_nil nonempty
      refine ⟨group :: others, rfl, rfl, ?_⟩
      intro group member
      exact ⟨full group member, fun flag listed =>
        commaless flag (List.mem_flatten_of_mem member listed)⟩
  | inVariable _ nonempty unset value =>
      rw [unset, value]
      refine ⟨[flags], (List.flatten_singleton).symm, rfl, ?_⟩
      intro group member
      rw [List.mem_singleton.1 member]
      exact ⟨nonempty, commaless⟩

end CompilePlayground.Options
