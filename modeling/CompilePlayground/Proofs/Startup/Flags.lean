import CompilePlayground.Proofs.Compilation.Milestones
import CompilePlayground.Proofs.Options.Mentions
import CompilePlayground.Proofs.Posix.Telling
import CompilePlayground.Proofs.Service.Leftovers
import CompilePlayground.Startup

namespace CompilePlayground

open Options Posix

/-!
# The way of the flags to the compiler

The flags that the program is started with are kept in its configuration, are settings of the
service, and stand in the command of every job. The process of the compiler is told them as they
were given.
-/

namespace Service

variable {service next : Service} {index : Nat}

/-- A worker is at what it has turned to. -/
theorem seat_of_occupy
    {duty : Duty}
    {before : Occupation}
    (here : service.seats[index]? = some ⟨duty, before⟩)
    (occupation : Occupation) :
    (service.occupy index occupation).seats[index]? = some ⟨duty, occupation⟩ := by
  simp [occupy, here]

/-- A worker that waits for a process once it has gone on has just started it for its job. -/
theorem spawn_of_work?
    {process : Nat}
    (made : service.work? index = some next)
    (waits : next.seats[index]?.bind Seat.awaited? = some process) :
    ∃ duty ticket compilation output,
      service.seats[index]? = some ⟨duty, .busy ticket compilation⟩ ∧
        compilation.stage = .launch output ∧
        service.machine.spawn service.host (compilation.command output) =
          .ok (process, next.machine) := by
  have turned {duty : Duty} {before : Occupation}
      (here : service.seats[index]? = some ⟨duty, before⟩)
      (occupation : Occupation)
      (seats : next.seats = (service.occupy index occupation).seats) :
      Seat.awaited? ⟨duty, occupation⟩ = some process := by
    rw [seats, seat_of_occupy here] at waits
    exact waits
  unfold work? at made
  split at made
  · cases made
  next seat here =>
    obtain ⟨duty, occupation⟩ := seat
    cases occupation with
    | stopped =>
        cases made
    | busy ticket compilation =>
        simp only [compile?] at made
        split at made
        next outcome _ =>
          cases made
          obtain ⟨_, shape⟩ :=
            deliver_eq (service.occupy index .idle) ticket (.report (Worker.report outcome))
          cases turned here .idle (by unfold finish; rw [shape]; rfl)
        next =>
          obtain ⟨stepped, steps, rfl⟩ := Option.map_eq_some_iff.1 made
          obtain ⟨output, stands, starts⟩ := Compilation.spawn_of_awaited? steps
            (turned here (.busy ticket stepped.compilation) rfl)
          exact ⟨duty, ticket, compilation, output, here, stands, starts⟩
    | idle =>
        simp only at made
        split at made
        next submission rest _ =>
          cases made
          unfold take at waits turned
          cases duty with
          | compile =>
              cases turned here
                (.busy submission.ticket (.begin service.settings submission.job)) rfl
          | discard =>
              obtain ⟨_, shape⟩ :=
                deliver_eq { service with queue := rest } submission.ticket .nothing
              simp only [shape, here] at waits
              cases waits
        next =>
          split at made
          · cases made
          · cases made
            cases turned here .stopped (by unfold stop; cases duty <;> rfl)

/-- A worker whose compiler can be started waits for it when it has gone on. -/
theorem work?_of_spawn
    {duty : Duty}
    {ticket output process : Nat}
    {compilation : Compilation}
    {machine : Machine}
    (here : service.seats[index]? = some ⟨duty, .busy ticket compilation⟩)
    (stands : compilation.stage = .launch output)
    (starts : service.machine.spawn service.host (compilation.command output) =
      .ok (process, machine)) :
    ∃ next, service.work? index = some next ∧
      next.seats[index]?.bind Seat.awaited? = some process := by
  have goesOn : compilation.outcome? = none := by
    unfold Compilation.outcome?
    rw [stands]
  obtain ⟨stepped, steps, waits⟩ : ∃ stepped,
      compilation.step service.host service.machine = some stepped ∧
        stepped.compilation.awaited? = some process := by
    unfold Compilation.step
    simp only [stands, starts]
    exact ⟨_, rfl, rfl⟩
  unfold work?
  simp only [here, compile?, goesOn, steps, Option.map_some, Option.some.injEq, exists_eq_left']
  have seat : ((service.withMachine stepped.machine).occupy index
      (.busy ticket stepped.compilation)).seats[index]? =
        some ⟨duty, .busy ticket stepped.compilation⟩ :=
    seat_of_occupy here _
  simp only [log, seat]
  exact waits

end Service

namespace Startup

/-- What becomes of flags for the compiler that the program is started with. -/
structure Delivers
    (surroundings : Surroundings)
    (mentions : List Mention)
    (flags : List String) :
    Prop where
  /-- They never keep a configuration from coming about, which only the other options can do. -/
  configured :
    (∃ config, Config.read surroundings.environment (Mention.arguments mentions) = .ok config) ↔
      (∀ mention ∈ mentions, mention.Stands) ∧ Setting.SetOnce (mentions.map Mention.setting) ∧
        ∀ flag : Flag, flag ≠ .compilerFlags → ∃ value, flag.Means
          (Config.counting surroundings.environment (mentions.map Mention.setting) flag) value
  /-- A configuration has them, in their order, and no others. -/
  kept : ∀ config,
    Config.read surroundings.environment (Mention.arguments mentions) = .ok config →
      config.compilerFlags = flags
  /-- What the variable holds has no part in it when they are on the command line. -/
  alone : Setting.given (mentions.map Mention.setting) .compilerFlags ≠ [] → ∀ value?,
    Config.read (Function.update surroundings.environment .compilerFlags value?)
        (Mention.arguments mentions) =
      Config.read surroundings.environment (Mention.arguments mentions)
  /-- The process that a worker starts for a job is told them, in their order, then where the
  program is to be written and what it is to be made of, and nothing else. -/
  told : ∀ service endpoint,
    (run surroundings (Mention.arguments mentions)).progression = .serving service endpoint →
      ∀ course reached, service.undergo? course = some reached →
        ∀ index process next, reached.step? (.work index) = some next →
          next.seats[index]?.bind Seat.awaited? = some process →
            ∃ child ∈ next.machine.processes, child.id = process ∧
              child.IsTold surroundings.host reached.machine.disk
                (Text.Utf8.encode service.settings.program)
                ((flags ++ ["-o", "test", "main.cpp"]).map Text.Utf8.encode)
  /-- A worker that has come to the compiler starts it if it could be started without them. -/
  started : ∀ service endpoint,
    (run surroundings (Mention.arguments mentions)).progression = .serving service endpoint →
      ∀ course reached, service.undergo? course = some reached →
        ∀ index duty ticket compilation output,
          reached.seats[index]? = some ⟨duty, .busy ticket compilation⟩ →
            compilation.stage = .launch output →
              (∃ started, reached.machine.spawn reached.host
                { compilation.command output with arguments := [] } = .ok started) →
                ∃ process next, reached.step? (.work index) = some next ∧
                  next.seats[index]?.bind Seat.awaited? = some process

section Starting

variable {surroundings : Surroundings} {arguments : List Bytes} {service reached : Service}
  {endpoint : Network.Endpoint} {course : List Service.Occurrence}

/-- A program that serves has launched its service with the settings that it has read. -/
theorem exists_config_of_serving
    (serves : (run surroundings arguments).progression = .serving service endpoint) :
    ∃ config machine, Config.read surroundings.environment arguments = .ok config ∧
      service = Service.launch surroundings.host config.compilerSettings config.indexPath
        (some config.rateLimit) config.workers machine surroundings.names := by
  have attempted : (attempt surroundings arguments).progression = .serving service endpoint :=
    serves
  unfold attempt at attempted
  split at attempted
  · cases attempted
  next config read =>
    split at attempted
    · cases attempted
    · unfold serve at attempted
      split at attempted
      · cases attempted
      next machine _ =>
        simp only at attempted
        split at attempted
        · cases attempted
        · cases attempted
          exact ⟨config, machine, read, rfl⟩

/-- A worker is at its job with the settings that the program has read. -/
theorem settings_of_seat
    (serves : (run surroundings arguments).progression = .serving service endpoint)
    (undergone : service.undergo? course = some reached) :
    ∃ config, Config.read surroundings.environment arguments = .ok config ∧
      service.settings = config.compilerSettings ∧ reached.host = surroundings.host ∧
        ∀ (index : Nat) (duty : Duty) (ticket : Nat) (compilation : Compilation),
          reached.seats[index]? = some ⟨duty, .busy ticket compilation⟩ →
            compilation.settings = config.compilerSettings := by
  obtain ⟨config, machine, made, rfl⟩ := exists_config_of_serving serves
  obtain ⟨sameHost, sameSettings⟩ := Service.settings_of_course undergone
  refine ⟨config, made, rfl, sameHost, ?_⟩
  intro index duty ticket compilation here
  have followed := (Service.kept_of_course undergone).worked.followed index duty ticket compilation
    here
  exact (Compilation.settings_of_follow followed).trans sameSettings

/-- What the compiler is told of flags without zero bytes holds none. -/
theorem zero_not_mem_of_told
    {flags : List String}
    (zeroless : ∀ flag ∈ flags, '\x00' ∉ flag.toList) :
    ∀ argument ∈ (flags ++ ["-o", Compilation.binaryName, Compilation.sourceName]).map
      Text.Utf8.encode, 0 ∉ argument := by
  intro argument member
  obtain ⟨text, listed, rfl⟩ := List.mem_map.1 member
  have zero : 0 ∈ Text.Utf8.encode text ↔ '\x00' ∈ text.toList :=
    Text.Utf8.mem_encode_iff (by decide) rfl text
  rw [zero]
  rcases List.mem_append.1 listed with given | fixed
  · exact zeroless text given
  · simp only [List.mem_cons, List.not_mem_nil, or_false] at fixed
    rcases fixed with rfl | rfl | rfl <;> decide

/-- Flags without commas and zero bytes reach the compiler of every job as they were given, however
they are grouped and whatever other options there are. -/
theorem delivers_of_gives
    {mentions : List Mention}
    {flags : List String}
    (gives : Gives surroundings.environment mentions flags)
    (commaless : ∀ flag ∈ flags, ',' ∉ flag.toList)
    (zeroless : ∀ flag ∈ flags, '\x00' ∉ flag.toList) :
    Delivers surroundings mentions flags := by
  have meant := means_of_gives gives commaless
  have kept {config : Config}
      (made : Config.read surroundings.environment (Mention.arguments mentions) = .ok config) :
      config.compilerFlags = flags :=
    Config.field_of_means meant made
  have command {config : Config} {compilation : Compilation} (output : Nat)
      (made : Config.read surroundings.environment (Mention.arguments mentions) = .ok config)
      (settings : compilation.settings = config.compilerSettings) :
      (compilation.command output).arguments =
        (flags ++ ["-o", "test", "main.cpp"]).map Text.Utf8.encode := by
    rw [← kept made]
    unfold Compilation.command
    rw [settings]
    rfl
  refine ⟨Config.exists_read_arguments_iff meant, fun _ => kept, ?alone, ?told, ?started⟩
  case alone =>
    intro set value?
    exact Config.read_update set surroundings.environment value?
  case told =>
    intro service endpoint serves course reached undergone index process next made waits
    obtain ⟨config, read, same, host, settings⟩ := settings_of_seat serves undergone
    obtain ⟨duty, ticket, compilation, output, here, _, starts⟩ :=
      Service.spawn_of_work? made waits
    have own := settings index duty ticket compilation here
    obtain ⟨child, listed, numbered, isTold⟩ := Machine.told_of_spawn starts
    refine ⟨child, listed, numbered, ?_⟩
    have program : (compilation.command output).program =
        Text.Utf8.encode service.settings.program := by
      unfold Compilation.command
      rw [own, same]
    rwa [command output read own, program, host] at isTold
  case started =>
    intro service endpoint serves course reached undergone index duty ticket compilation output
      here stands starts
    obtain ⟨config, read, _, _, settings⟩ := settings_of_seat serves undergone
    obtain ⟨_, starts⟩ := starts
    have whole : ∀ argument ∈ (compilation.command output).arguments, 0 ∉ argument := by
      rw [command output read (settings index duty ticket compilation here)]
      exact zero_not_mem_of_told zeroless
    obtain ⟨⟨process, machine⟩, starts⟩ := Machine.spawns_of_arguments starts whole
    obtain ⟨next, made, waits⟩ := Service.work?_of_spawn here stands starts
    exact ⟨process, next, made, waits⟩

end Starting

namespace Sample

/-- A machine with a compiler that writes what it is told, with bars between, and with the device
that gives nothing. -/
def echoing : Machine :=
  let device : File := { content := .void, mode := 0o666, modified := 0 }
  let start (invocation : Invocation) : Program :=
    .call (.write 1 ([124].intercalate invocation.arguments)) fun _ => .exit 0
  let compiler : File := { content := .program start, mode := 0o755, modified := 0 }
  let bare := Disk.empty.addDirectory [[100, 101, 118]]
  let equipped := (bare.addFile [[100, 101, 118], [110, 117, 108, 108]] device).2
  Machine.ofDisk (equipped.addFile [[99]] compiler).2

/-- The machine, with other flags in the variable. -/
def surroundings : Surroundings where
  environment flag := if flag = .compilerFlags then some (Text.Utf8.encode "-O3") else none
  logSetting? := none
  isRoot := true
  interfaces := .unplugged
  host := ⟨[], []⟩
  machine := echoing

/-- Flags that are empty, look like an option or hold a space and an equals sign. -/
def groups : List (List String) :=
  [["", "--help"], ["a b=c"], [""]]

/-- The groups, written in both ways and among other options. -/
def mentions : List Mention :=
  [.joined (.value .compiler rfl (Text.Utf8.encode "/c")),
    .apart .compilerFlags Flag.takesValue_compilerFlags (Flag.joined ["", "--help"]),
    .joined (.value .workDirectory rfl (Text.Utf8.encode "/w")),
    .joined (.value .compilerFlags Flag.takesValue_compilerFlags (Flag.joined ["a b=c"])),
    .joined .switch,
    .apart .rateLimit rfl (Text.Utf8.encode "0"),
    .apart .compilerFlags Flag.takesValue_compilerFlags (Flag.joined [""])]

/-- A client sends a source, and the worker has all ready for the compiler. -/
def preparing : List Service.Occurrence :=
  [.move (.receive ⟨"POST", "/compile", [], [97], none⟩), .move (.attend 0), .move (.work 0),
    .move (.work 0), .move (.work 0), .move (.work 0)]

/-- The compiler writes and ends, and the client is answered. -/
def compiling : List Service.Occurrence :=
  [.move (.run 1002), .move (.run 1002), .move (.work 0), .move (.work 0), .move (.work 0),
    .move (.work 0), .move (.attend 0)]

/-- What shows when a program that has started has prepared and compiled: the process that its
worker came to wait for, and what the client was answered. -/
def shown : Progression → Option (Option Nat × Option (List String))
  | .ended _ => none
  | .serving service _ =>
      (service.undergo? preparing).bind fun reached =>
        (reached.step? (.work 0)).map fun next =>
          (next.seats[0]?.bind Seat.awaited?,
            (next.undergo? compiling).map fun last =>
              last.replies.map fun reply => Text.Utf8.decodeLossy reply.response.body)

end Sample

/-- A compiler is told flags that are hard to keep apart as they were given. -/
theorem delivers_of_gives_of_grouped :
    ∃ service endpoint reached next,
      (run Sample.surroundings (Mention.arguments Sample.mentions)).progression =
          .serving service endpoint ∧
        service.undergo? Sample.preparing = some reached ∧
        reached.step? (.work 0) = some next ∧
        next.seats[0]?.bind Seat.awaited? = some 1002 ∧
        (next.undergo? Sample.compiling).map (fun last =>
            last.replies.map fun reply => Text.Utf8.decodeLossy reply.response.body) =
          some ["Compilation succeeded.\n\n/c||--help|a b=c||-o|test|main.cpp"] ∧
        Delivers Sample.surroundings Sample.mentions Sample.groups.flatten := by
  have delivers : Delivers Sample.surroundings Sample.mentions Sample.groups.flatten :=
    delivers_of_gives (.onLine Sample.groups (by decide) (by decide) rfl) (by decide) (by decide)
  have made : Sample.shown (run Sample.surroundings
      (Mention.arguments Sample.mentions)).progression =
      some (some 1002,
        some ["Compilation succeeded.\n\n/c||--help|a b=c||-o|test|main.cpp"]) := by
    decide +kernel
  cases serves : (run Sample.surroundings (Mention.arguments Sample.mentions)).progression with
  | ended code =>
      rw [serves] at made
      cases made
  | serving service endpoint =>
      rw [serves] at made
      obtain ⟨reached, undergone, onward⟩ := Option.bind_eq_some_iff.1 made
      obtain ⟨next, step, facts⟩ := Option.map_eq_some_iff.1 onward
      obtain ⟨waits, answered⟩ := Prod.mk.inj facts
      exact ⟨service, endpoint, reached, next, rfl, undergone, step, waits, answered, delivers⟩

end Startup

end CompilePlayground
