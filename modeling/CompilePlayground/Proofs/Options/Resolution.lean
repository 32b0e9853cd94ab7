import CompilePlayground.Proofs.Options.Settings
import Mathlib.Logic.Function.Basic

namespace CompilePlayground

open Options

/-!
# How options are resolved

What counts for an option is what it is given on the command line, or else its variable, or else
its fallback. A configuration comes about exactly when the value that counts is acceptable for
each option on its own, and each of its fields is told by the value that counts for its option.
-/

namespace Config

/-- The raw values that count for an option. -/
def counting (environment : Environment) (settings : List Setting) (flag : Flag) : List Bytes :=
  match Setting.given settings flag with
  | [] => [(environment flag).getD (Text.Utf8.encode flag.fallback)]
  | raws => raws

section Resolving

variable {environment : Environment} {settings : List Setting} {flag : Flag}
  {line : CommandLine} {config : Config}

/-- One raw value counts for an option that does not repeat. -/
theorem counting_single
    (once : Setting.SetOnce settings)
    (single : flag.repeats = false) :
    ∃ raw, counting environment settings flag = [raw] := by
  have most := once flag single
  unfold counting
  cases given : Setting.given settings flag with
  | nil =>
      exact ⟨_, rfl⟩
  | cons raw rest =>
      rw [given] at most
      cases rest with
      | nil =>
          exact ⟨raw, rfl⟩
      | cons =>
          simp at most

/-- A raw value that an option is given counts for it. -/
theorem raw_mem_counting
    {setting : Setting}
    (member : setting ∈ settings) :
    setting.raw ∈ counting environment settings setting.flag := by
  have given := Setting.raw_mem_given member
  unfold counting
  cases shape : Setting.given settings setting.flag with
  | nil =>
      rw [shape] at given
      cases given
  | cons raw rest =>
      rwa [shape] at given

/-- The values that count for an option are the pieces of its raw values. -/
theorem effective_eq
    (reflects : line.Reflects settings)
    (environment : Environment)
    (flag : Flag) :
    effective line environment flag =
      (counting environment settings flag).flatMap flag.pieces := by
  unfold effective counting
  rw [reflects.values]
  cases Setting.given settings flag <;> simp

/-- A configuration comes about exactly when its fields are what the raw values that count for
their options stand for. -/
theorem read_eq_ok_iff (once : Setting.SetOnce settings) :
    read environment (Setting.arguments settings) = .ok config ↔
      ∀ flag : Flag, flag.Means (counting environment settings flag) (config.field flag) := by
  have means {line : CommandLine} (reflects : line.Reflects settings) :
      ofValues (effective line environment) = .ok config ↔
        ∀ flag : Flag, flag.Means (counting environment settings flag) (config.field flag) := by
    rw [ofValues_eq_ok_iff]
    apply forall_congr'
    intro flag
    rw [effective_eq reflects]
    exact Flag.reading_eq_ok_iff fun single => counting_single once single
  unfold read
  constructor
  · intro made
    split at made
    · cases made
    next line all =>
      exact (means (CommandLine.reflects_of_readAll .start once all)).1 made
  · intro isMeant
    have checked : ∀ setting ∈ settings,
        setting.flag.checkAll (setting.flag.pieces setting.raw) = .ok () := by
      intro setting member
      have shape (single : setting.flag.repeats = false) :=
        @counting_single environment settings setting.flag once single
      have read := (Flag.reading_eq_ok_iff shape).2 (isMeant setting.flag)
      rw [Flag.checkAll_eq_ok_iff]
      intro piece isPiece
      refine Flag.checkAll_eq_ok_iff.1 (Flag.checkAll_of_reading ?_ read) piece ?_
      · intro single
        obtain ⟨raw, alone⟩ := shape single
        exact ⟨raw, by rw [alone, List.flatMap_singleton, Flag.pieces_of_single single]⟩
      · exact List.mem_flatMap.2 ⟨setting.raw, raw_mem_counting member, isPiece⟩
    obtain ⟨line, all⟩ := CommandLine.readAll_of_checked .start once checked
    simp only [all]
    exact (means (CommandLine.reflects_of_readAll .start once all)).2 isMeant

/-- The raw values that count for an option are all that its field depends on. -/
theorem means_unique
    (once : Setting.SetOnce settings)
    {first second : flag.Value}
    (firstMeant : flag.Means (counting environment settings flag) first)
    (secondMeant : flag.Means (counting environment settings flag) second) :
    first = second := by
  have shape (single : flag.repeats = false) :=
    @counting_single environment settings flag once single
  rw [← Flag.reading_eq_ok_iff shape] at firstMeant secondMeant
  rw [firstMeant, Except.ok.injEq] at secondMeant
  exact secondMeant

/-- What counts for an option that is set does not depend on its variable. -/
theorem counting_congr
    {elsewhere : Environment}
    (agree : Setting.given settings flag = [] → environment flag = elsewhere flag) :
    counting environment settings flag = counting elsewhere settings flag := by
  unfold counting
  split
  next unset =>
    rw [agree unset]
  next =>
    rfl

/-- Settings in another order give the same, but for those of an option that repeats. -/
theorem given_of_perm
    {other : List Setting}
    (once : Setting.SetOnce settings)
    (perm : settings.Perm other)
    (flags : Setting.given other .compilerFlags = Setting.given settings .compilerFlags)
    (flag : Flag) :
    Setting.given other flag = Setting.given settings flag := by
  cases repeats : flag.repeats with
  | true =>
      have same : flag = .compilerFlags := by
        simpa [Flag.repeats] using repeats
      rw [same, flags]
  | false =>
      have most := once flag repeats
      have given : (Setting.given settings flag).Perm (Setting.given other flag) :=
        (perm.filter _).map _
      cases shape : Setting.given settings flag with
      | nil =>
          rw [shape] at given
          exact given.nil_eq.symm
      | cons raw rest =>
          rw [shape] at most given
          cases rest with
          | nil =>
              exact List.perm_singleton.1 given.symm
          | cons =>
              simp at most

/-- How a command line of settings is resolved, in any environment. -/
structure Resolves (settings : List Setting) : Prop where
  /-- A configuration comes about when what counts is acceptable for each option on its own. -/
  succeeds : ∀ environment, (∃ config, read environment (Setting.arguments settings) = .ok config) ↔
    ∀ flag : Flag, ∃ value, flag.Means (counting environment settings flag) value
  /-- Each field is what the raw values that count for its option stand for. -/
  fields : ∀ environment config, read environment (Setting.arguments settings) = .ok config →
    ∀ flag : Flag, flag.Means (counting environment settings flag) (config.field flag)
  /-- A field depends on nothing but what counts for its option. -/
  own : ∀ environment config elsewhere other another, Setting.SetOnce other →
    read environment (Setting.arguments settings) = .ok config →
      read elsewhere (Setting.arguments other) = .ok another →
        ∀ flag, counting environment settings flag = counting elsewhere other flag →
          config.field flag = another.field flag
  /-- The variable of an option that is set is not looked at. -/
  hidden : ∀ environment elsewhere : Environment,
    (∀ flag, Setting.given settings flag = [] → environment flag = elsewhere flag) →
      read environment (Setting.arguments settings) =
        read elsewhere (Setting.arguments settings)
  /-- The order of the arguments does not matter, but that of the flags for the compiler. -/
  order : ∀ other, settings.Perm other →
    Setting.given other .compilerFlags = Setting.given settings .compilerFlags →
      ∀ environment config,
        read environment (Setting.arguments other) = .ok config ↔
          read environment (Setting.arguments settings) = .ok config
  /-- An option may as well be set by its variable. -/
  byVariable : ∀ before flag takes raw after, settings = before ++ .value flag takes raw :: after →
    Setting.given (before ++ after) flag = [] → ∀ environment config,
      read (Function.update environment flag (some raw)) (Setting.arguments (before ++ after)) =
          .ok config ↔
        read environment (Setting.arguments settings) = .ok config

/-- The configuration of given fields. -/
def ofFields (fields : (flag : Flag) → flag.Value) : Config where
  host := fields .host
  port := fields .port
  workers := fields .workers
  indexPath := fields .indexPath
  workDirectory := fields .workDirectory
  compiler := fields .compiler
  compilerFlags := fields .compilerFlags
  timeoutSeconds := fields .timeout
  rateLimit := fields .rateLimit
  allowRoot := fields .allowRoot

theorem field_ofFields (fields : (flag : Flag) → flag.Value) (flag : Flag) :
    (ofFields fields).field flag = fields flag := by
  cases flag <;> rfl

/-- What each option stands for on its own makes a configuration. -/
theorem exists_read_iff (once : Setting.SetOnce settings) :
    (∃ config, read environment (Setting.arguments settings) = .ok config) ↔
      ∀ flag : Flag, ∃ value, flag.Means (counting environment settings flag) value := by
  simp only [read_eq_ok_iff once]
  constructor
  · rintro ⟨config, means⟩ flag
    exact ⟨config.field flag, means flag⟩
  · intro acceptable
    obtain ⟨fields, means⟩ := Classical.axiomOfChoice acceptable
    refine ⟨ofFields fields, ?_⟩
    intro flag
    rw [field_ofFields]
    exact means flag

/-- Only what counts for the options is looked at, also where no configuration comes about. -/
theorem read_congr
    {elsewhere : Environment}
    (once : Setting.SetOnce settings)
    (agree : ∀ flag, Setting.given settings flag = [] → environment flag = elsewhere flag) :
    read environment (Setting.arguments settings) =
      read elsewhere (Setting.arguments settings) := by
  unfold read
  split
  next =>
    rfl
  next line all =>
    have reflects := CommandLine.reflects_of_readAll .start once all
    have same : effective line environment = effective line elsewhere := by
      funext flag
      rw [effective_eq reflects, effective_eq reflects]
      exact congrArg (List.flatMap flag.pieces) (counting_congr (agree flag))
    rw [same]

/-- Settings that give the same options the same make the same configuration. -/
theorem read_eq_ok_congr
    {elsewhere : Environment}
    {other : List Setting}
    (once : Setting.SetOnce settings)
    (onceElse : Setting.SetOnce other)
    (same : ∀ flag, counting elsewhere other flag = counting environment settings flag) :
    read elsewhere (Setting.arguments other) = .ok config ↔
      read environment (Setting.arguments settings) = .ok config := by
  rw [read_eq_ok_iff onceElse, read_eq_ok_iff once]
  simp only [same]

/-- A value counts for its option in the same way on the command line and in the variable. -/
theorem counting_update
    {before after : List Setting}
    {takes : flag.takesValue = true}
    {raw : Bytes}
    (unset : Setting.given (before ++ after) flag = [])
    (other : Flag) :
    counting (Function.update environment flag (some raw)) (before ++ after) other =
      counting environment (before ++ .value flag takes raw :: after) other := by
  have given (other : Flag) :
      Setting.given (before ++ .value flag takes raw :: after) other =
        Setting.given before other ++ (if flag = other then [raw] else []) ++
          Setting.given after other := by
    rw [← List.singleton_append, Setting.given_append, Setting.given_append,
      Setting.given_singleton, List.append_assoc]
    rfl
  unfold counting
  rw [given]
  by_cases own : flag = other
  · subst own
    rw [unset]
    rw [Setting.given_append, List.append_eq_nil_iff] at unset
    simp [unset]
  · rw [if_neg own, List.append_nil, ← Setting.given_append,
      Function.update_of_ne (Ne.symm own)]

/-- Options that are set once at most are resolved each on its own. -/
theorem resolves_of_setOnce (once : Setting.SetOnce settings) : Resolves settings where
  succeeds _ := exists_read_iff once
  fields _ _ made := (read_eq_ok_iff once).1 made
  own environment config elsewhere other another onceElse made madeElse flag same := by
    have means := (read_eq_ok_iff once).1 made flag
    have meansElse := (read_eq_ok_iff onceElse).1 madeElse flag
    rw [← same] at meansElse
    exact means_unique once means meansElse
  hidden _ _ agree := read_congr once agree
  order other perm flags environment config := by
    have given := given_of_perm once perm flags
    have onceElse : Setting.SetOnce other := by
      intro flag single
      rw [given]
      exact once flag single
    refine read_eq_ok_congr once onceElse ?_
    intro flag
    unfold counting
    rw [given]
  byVariable before flag takes raw after shape unset environment config := by
    subst shape
    have onceElse : Setting.SetOnce (before ++ after) := by
      intro other single
      refine Nat.le_trans ?_ (once other single)
      rw [Setting.given_append, ← List.singleton_append, Setting.given_append,
        Setting.given_append]
      simp only [List.length_append]
      omega
    exact read_eq_ok_congr once onceElse (counting_update unset)

end Resolving

namespace Sample

/-- A command line with a port, the switch and two groups of flags for the compiler. -/
def settings : List Setting :=
  [.value .port rfl (Text.Utf8.encode "8080"),
    .value .compilerFlags rfl (Text.Utf8.encode "-O2,-Wall"),
    .switch,
    .value .compilerFlags rfl (Text.Utf8.encode "-g")]

/-- An environment with a host, and with a port that is none. -/
def environment : Environment
  | .host => some (Text.Utf8.encode "127.0.0.1")
  | .port => some (Text.Utf8.encode "none")
  | _ => none

/-- What the command line and the environment make. -/
def config : Config where
  host := "127.0.0.1"
  port := 8080
  workers := 1
  indexPath := Text.Utf8.encode "static/cmd.html"
  workDirectory := Text.Utf8.encode "./work"
  compiler := "g++"
  compilerFlags := ["-O2", "-Wall", "-g"]
  timeoutSeconds := 10
  rateLimit := 10
  allowRoot := true

theorem settings_setOnce : Setting.SetOnce settings := by
  intro flag single
  cases flag with
  | compilerFlags =>
      cases single
  | _ =>
      decide

end Sample

/-- A port that counts hides its variable, and the groups of flags are joined in order. -/
theorem resolves_of_setOnce_of_sample :
    Setting.SetOnce Sample.settings ∧ Resolves Sample.settings ∧
      (read Sample.environment (Setting.arguments Sample.settings)).toOption = some Sample.config :=
  ⟨Sample.settings_setOnce, resolves_of_setOnce Sample.settings_setOnce, by decide +kernel⟩

end Config

end CompilePlayground
