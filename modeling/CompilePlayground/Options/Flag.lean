import CompilePlayground.Text.Utf8

namespace CompilePlayground.Options

/-!
# The options of the program

Each option has a name on the command line, a variable in the environment and, but for
the one switch, a value that holds when neither is given.
-/

/-- The options, in the order in which they are listed. -/
inductive Flag where
  | host
  | port
  | workers
  | indexPath
  | workDirectory
  | compiler
  | compilerFlags
  | timeout
  | rateLimit
  | allowRoot
  deriving Repr, DecidableEq

namespace Flag

/-- All options, in the order in which they are listed. -/
def all : List Flag :=
  [.host, .port, .workers, .indexPath, .workDirectory, .compiler, .compilerFlags, .timeout,
   .rateLimit, .allowRoot]

/-- The name on the command line, without its hyphens. -/
def name : Flag → String
  | .host => "host"
  | .port => "port"
  | .workers => "num-workers"
  | .indexPath => "index-path"
  | .workDirectory => "work-dir"
  | .compiler => "compiler"
  | .compilerFlags => "compiler-flags"
  | .timeout => "compile-timeout-secs"
  | .rateLimit => "rate-limit-per-second"
  | .allowRoot => "allow-root"

/-- The variable in the environment. -/
def environmentName : Flag → String
  | .host => "HOST"
  | .port => "PORT"
  | .workers => "NUM_WORKERS"
  | .indexPath => "INDEX_PATH"
  | .workDirectory => "WORK_DIR"
  | .compiler => "COMPILER"
  | .compilerFlags => "COMPILER_FLAGS"
  | .timeout => "COMPILE_TIMEOUT_SECS"
  | .rateLimit => "RATE_LIMIT_PER_SECOND"
  | .allowRoot => "ALLOW_ROOT"

/-- What the option is for, where its name does not say it. -/
def purpose : Flag → String
  | .host => "Address to bind the HTTP listener to"
  | .workers => "Number of compile jobs that may run at the same time"
  | .indexPath => "HTML page served at `/`"
  | .workDirectory => "Parent directory of the per-job working directories"
  | .compilerFlags => "Flags placed before `-o <binary> <source>`"
  | .rateLimit =>
      "Requests per second allowed on `/compile` per client IP (also the burst size), " ++
        "0 disables the limit"
  | .allowRoot => "Start even when running as root"
  | _ => ""

/-- What holds when the option is not given. -/
def fallback : Flag → String
  | .host => "0.0.0.0"
  | .port => "3000"
  | .workers => "1"
  | .indexPath => "static/cmd.html"
  | .workDirectory => "./work"
  | .compiler => "g++"
  | .compilerFlags => "-O2,-std=c++0x"
  | .timeout => "10"
  | .rateLimit => "10"
  | .allowRoot => "false"

/-- Whether the option has a value on the command line. -/
def takesValue (flag : Flag) : Bool :=
  flag != .allowRoot

/-- Whether the option may be given several times; its values then join in one list. -/
def repeats (flag : Flag) : Bool :=
  flag == .compilerFlags

/-- How the option stands in a usage line. -/
def usage (flag : Flag) : String :=
  if flag.takesValue then "--" ++ flag.name ++ " <" ++ flag.environmentName ++ ">"
  else "--" ++ flag.name

/-- The option of a name. -/
def ofName? (name : String) : Option Flag :=
  all.find? (·.name == name)

end Flag

/-- The variables of the options, as far as they are set. -/
abbrev Environment := Flag → Option Bytes

/-- Split bytes at each comma. -/
def splitCommas : Bytes → List Bytes
  | [] => [[]]
  | byte :: rest =>
      match splitCommas rest with
      | [] => [[byte]]
      | first :: others =>
          if byte = 44 then [] :: first :: others else (byte :: first) :: others

/-- The single values that a written value holds. -/
def Flag.pieces (flag : Flag) (written : Bytes) : List Bytes :=
  if flag.repeats then splitCommas written else [written]

end CompilePlayground.Options
