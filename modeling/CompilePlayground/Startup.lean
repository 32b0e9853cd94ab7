import CompilePlayground.Config
import CompilePlayground.Log.Filter
import CompilePlayground.Network.Interfaces
import CompilePlayground.Service.Schedule

namespace CompilePlayground

open Posix Network

/-!
# Starting the program

The program reads its configuration, refuses to run with the rights of the system's owner
unless it is told to, makes the directory for its jobs, and listens. Each of these can end it.
-/

/-- What the program finds when it is started. -/
structure Surroundings where
  environment : Options.Environment
  logSetting? : Option String
  isRoot : Bool
  interfaces : Interfaces
  host : Host
  machine : Machine
  names : Nat → String := Service.jobName

/-- How far the program comes: it ends with an exit code, or serves at an endpoint. -/
inductive Progression where
  | ended (exitCode : Nat)
  | serving (service : Service) (endpoint : Endpoint)

/-- A start of the program: what it printed, what it logged, what it complained about, and
what came of it. -/
structure Startup where
  printed : String
  events : List LogEvent
  complaint : String
  machine : Machine
  progression : Progression

namespace Startup

/-- The complaint about the rights of the system's owner. -/
def rootComplaint : String :=
  "This server should not be run as root for security reasons "
    ++ "(pass --allow-root to override).\n"

/-- The text before the last place where a character stands, and the one after it. -/
def splitLast? (separator : Char) (text : List Char) : Option (List Char × List Char) :=
  let after := (text.reverse.takeWhile (· ≠ separator)).reverse
  if after.length < text.length then
    some (text.take (text.length - after.length - 1), after)
  else
    none

/-- The addresses that are known by a name. -/
def knownHosts : List (String × Address) :=
  [("localhost", .four [127, 0, 0, 1])]

/-- The address that a host is known by. -/
def addressOf? (host : List Char) : Option Address :=
  match Address.read? host with
  | some address => some address
  | none => knownHosts.lookup (String.ofList host)

/-- The endpoint that an address leads to. -/
def resolve (address : String) : Except IoError Endpoint :=
  match Endpoint.read? address.toList with
  | some endpoint => .ok endpoint
  | none =>
    match splitLast? ':' address.toList with
    | none => .error (.custom "invalid socket address")
    | some (host, port) =>
      match readPort? port, addressOf? host with
      | none, _ => .error (.custom "invalid port value")
      | some port, some address => .ok ⟨address, port⟩
      | some _, none =>
        .error
          (.custom
            ("failed to lookup address information: "
              ++ "Temporary failure in name resolution"))

/-- Listen at the endpoint that an address leads to. -/
def listen (interfaces : Interfaces) (address : String) : Except IoError Endpoint := do
  let endpoint ← resolve address
  match interfaces.listen endpoint with
  | .ok () => return endpoint
  | .error error => throw (.system error)

/-- An error of the program itself. -/
def errorEvent (message : String) : LogEvent :=
  .plain .error .service message

/-- A start that ended after some events. -/
def failed (machine : Machine) (events : List LogEvent) : Startup :=
  { printed := "", events, complaint := "", machine, progression := .ended 1 }

/-- Go on once the configuration is known and the program may run. -/
def serve (surroundings : Surroundings) (config : Config) : Startup :=
  match surroundings.machine.createDirectories surroundings.host config.workDirectory with
  | .error cause =>
    failed (surroundings.machine.afterFailedDirectories surroundings.host config.workDirectory)
      [errorEvent
        ("Failed to create work directory " ++ Text.Utf8.decodeLossy config.workDirectory
          ++ ": " ++ cause.message)]
  | .ok machine =>
    let service :=
      Service.launch surroundings.host config.compilerSettings config.indexPath
        (some config.rateLimit) config.workers machine surroundings.names
    match listen surroundings.interfaces config.address with
    | .error cause =>
      failed machine
        (service.events
          ++ [errorEvent ("Failed to bind " ++ config.address ++ ": " ++ cause.message)])
    | .ok endpoint =>
      let listening := LogEvent.plain .info .service ("Listening on http://" ++ config.address)
      { printed := "",
        events := service.events ++ [listening],
        complaint := "",
        machine,
        progression := .serving service endpoint }

/-- Start the program, with all that it logs. -/
def attempt (surroundings : Surroundings) (arguments : List Bytes) : Startup :=
  match Config.read surroundings.environment arguments with
  | .error failure =>
    let message := failure.message surroundings.environment
    { printed := if failure.isError then "" else message,
      events := [],
      complaint := if failure.isError then message else "",
      machine := surroundings.machine,
      progression := .ended failure.exitCode }
  | .ok config =>
    if surroundings.isRoot && !config.allowRoot then
      { failed surroundings.machine [] with complaint := rootComplaint }
    else
      serve surroundings config

/-- Start the program, with what it shows of its log. -/
def run (surroundings : Surroundings) (arguments : List Bytes) : Startup :=
  let filter := LogFilter.ofSetting surroundings.logSetting?
  let startup := attempt surroundings arguments
  { startup with events := startup.events.filter filter.shows }

end Startup

end CompilePlayground
