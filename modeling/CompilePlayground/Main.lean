import CompilePlayground.Http.Wire
import CompilePlayground.Posix.Installation
import CompilePlayground.Startup

/-!
# The command line

The program is started with its arguments and variables on a machine of its own. Requests
come on the standard input, one after the other, and responses go to the standard output.
-/

namespace CompilePlayground.Main

open Posix

/-- The directory in which the program stands. -/
def home : Path :=
  Installation.pathOf ["root"]

/-- The variable that says which events are shown. -/
def logVariable : String := "RUST_LOG"

/-- The network of the machine: an interface that leads back to it. -/
def interfaces : Network.Interfaces :=
  { own := [], isUp := true }

/-- The endpoint that requests come from. -/
def peer : Network.Endpoint :=
  ⟨.four [127, 0, 0, 1], 0⟩

/-- The values of the variables that options may come from. -/
def readVariables : IO (List (Options.Flag × String)) := do
  let mut found := []
  for flag in Options.Flag.all do
    match ← IO.getEnv flag.environmentName with
    | some value => found := (flag, value) :: found
    | none => pure ()
  return found

/-- The value of a variable among those that were found. -/
def environmentOf (found : List (Options.Flag × String)) : Options.Environment := fun flag =>
  (found.lookup flag).map Text.Utf8.encode

/-- What the program finds, with the rights of an ordinary user. -/
def surroundings
    (found : List (Options.Flag × String))
    (logSetting? : Option String) :
    Surroundings :=
  { environment := environmentOf found,
    logSetting?,
    isRoot := false,
    interfaces,
    host := ⟨home, Installation.environment⟩,
    machine := Installation.machine home }

/-- Answer requests one after the other. -/
def serve (service : Service) (requests : List Http.Request) : IO Unit := do
  let output ← IO.getStdout
  let mut current := service
  for request in requests do
    let (response?, next) := current.respond request
    if let some response := response? then
      output.write (ByteArray.mk (Http.Wire.writeResponse response).toArray)
      output.flush
    current := next

/-- All bytes of a stream. -/
partial def readAll (stream : IO.FS.Stream) (read : ByteArray) : IO ByteArray := do
  let more ← stream.read 65536
  if more.isEmpty then return read else readAll stream (read ++ more)

/-- Start the program, and serve what comes on the standard input. -/
def start (arguments : List String) : IO UInt32 := do
  let found ← readVariables
  let logSetting? ← IO.getEnv logVariable
  let startup :=
    Startup.run (surroundings found logSetting?) (arguments.map Text.Utf8.encode)
  IO.print startup.printed
  for event in startup.events do
    IO.println event.line
  IO.eprint startup.complaint
  match startup.progression with
  | .ended exitCode => return exitCode.toUInt32
  | .serving service _ =>
    let bytes ← readAll (← IO.getStdin) ByteArray.empty
    serve service (Http.Wire.readRequests peer bytes.toList)
    return 0

end CompilePlayground.Main

/-- Start the program with its arguments. -/
def main (arguments : List String) : IO UInt32 :=
  CompilePlayground.Main.start arguments
