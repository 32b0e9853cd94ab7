import CompilePlayground.Options.CommandLine
import CompilePlayground.Time.Span

namespace CompilePlayground

open Options

/-!
# The configuration

Every option gives one field. What it is given on the command line counts first, then its
variable in the environment, then its fallback. `Config.read` reads the command line and
the environment, `Config.ofValues` what then counts for each option.
-/

/-- What the program is told to do. -/
structure Config where
  host : String
  port : Nat
  workers : Nat
  indexPath : Bytes
  workDirectory : Bytes
  compiler : String
  compilerFlags : List String
  timeoutSeconds : Nat
  rateLimit : Nat
  allowRoot : Bool
  deriving Repr, DecidableEq

/-- What the workers need to know of it. -/
structure CompilerSettings where
  program : String
  flags : List String
  workDirectory : Bytes
  timeout : Time.Span
  deriving Repr, DecidableEq

namespace Config

/-- The single value of an option that does not repeat. -/
def single (values : List Bytes) : Bytes :=
  values.headD []

/-- The configuration that values for all options give. Of several bad values that of the
first option counts. -/
def ofValues (values : Flag → List Bytes) : Except Failure Config := do
  let host ← acceptText (single (values .host))
  let port ← acceptPort (single (values .port))
  let workers ← acceptNumber .workers (single (values .workers))
  let indexPath ← acceptPath .indexPath (single (values .indexPath))
  let workDirectory ← acceptPath .workDirectory (single (values .workDirectory))
  let compiler ← acceptText (single (values .compiler))
  let compilerFlags ← acceptTexts (values .compilerFlags)
  let timeoutSeconds ← acceptNumber .timeout (single (values .timeout))
  let rateLimit ← acceptNumber .rateLimit (single (values .rateLimit))
  let allowRoot ← acceptSwitch (single (values .allowRoot))
  return {
    host, port, workers, indexPath, workDirectory, compiler, compilerFlags, timeoutSeconds,
    rateLimit, allowRoot }

/-- The values that count for an option. -/
def effective (line : CommandLine) (environment : Environment) (flag : Flag) : List Bytes :=
  match line.values? flag with
  | some values => values
  | none => flag.pieces ((environment flag).getD (Text.Utf8.encode flag.fallback))

/-- The configuration that a command line and an environment give. -/
def read (environment : Environment) (arguments : List Bytes) : Except Failure Config :=
  match CommandLine.start.readAll arguments with
  | .error failure => .error failure
  | .ok line => ofValues (effective line environment)

/-- The longest time that one job may take. -/
def timeout (config : Config) : Time.Span :=
  .ofSeconds config.timeoutSeconds

/-- The address that the program listens at. -/
def address (config : Config) : String :=
  config.host ++ ":" ++ toString config.port

/-- What the workers need to know. -/
def compilerSettings (config : Config) : CompilerSettings :=
  ⟨config.compiler, config.compilerFlags, config.workDirectory, config.timeout⟩

end Config

end CompilePlayground
