namespace CompilePlayground

/-!
# Log events

Every event has a level, the part of the program that it comes from, and a
message. The event of a category link also names the link's title.
-/

/-- How grave an event is. -/
inductive Level where
  | error
  | warn
  | info
  | debug
  deriving Repr, DecidableEq

/-- The name of a level. -/
def Level.name : Level → String
  | .error => "ERROR"
  | .warn => "WARN"
  | .info => "INFO"
  | .debug => "DEBUG"

/-- The part of the program that an event comes from. -/
inductive Origin where
  | service
  | handlers
  | failures
  | compiler
  | worker
  | extension
  deriving Repr, DecidableEq

/-- The name under which an origin is logged. -/
def Origin.target : Origin → String
  | .service => "compile_relay"
  | .handlers => "compile_relay::handlers"
  | .failures => "compile_relay::errors"
  | .compiler => "compile_relay::compiler"
  | .worker => "compile_relay::compilation_worker"
  | .extension => "extension"

/-- Something that was logged. -/
structure LogEvent where
  level : Level
  origin : Origin
  message : String
  title? : Option String
  deriving Repr, DecidableEq

/-- An event without a title. -/
def LogEvent.plain (level : Level) (origin : Origin) (message : String) : LogEvent :=
  { level := level, origin := origin, message := message, title? := none }

end CompilePlayground
