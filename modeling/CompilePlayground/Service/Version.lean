import CompilePlayground.Failure
import CompilePlayground.Posix.Ending
import CompilePlayground.Posix.Spawn
import CompilePlayground.Text.Blank

namespace CompilePlayground

open Posix

/-!
# The version of the compiler

The compiler is asked for its version by running it with one flag and gathering what it
writes. An `Inquiry` is such a run; `Version.ofOutput` says what its end tells. What has been
learned once is kept, a run that told nothing is forgotten.
-/

/-- One output of the compiler, as far as it has been read. -/
structure Tap where
  openFile : Nat
  bytes : Bytes
  isDry : Bool
  deriving Repr, DecidableEq

/-- A compiler that has been asked for its version. -/
structure Inquiry where
  process : Nat
  output : Tap
  errors : Tap
  deriving Repr, DecidableEq

/-- What is known of the version. While it is being asked for, the one who asks is known by a
ticket. -/
inductive VersionCell where
  | unknown
  | sought (ticket : Nat)
  | known (version : String)
  deriving Repr, DecidableEq

namespace Version

/-- The flag that asks for the version. -/
def flag : String := "--version"

/-- Whether nothing but blanks was written. -/
def isBlank (text : String) : Bool :=
  (Text.trim text.toList).isEmpty

/-- The text that tells the version: what was written as output, or the complaints where that
is blank. -/
def telling (output errors : Bytes) : String :=
  let text := Text.Utf8.decodeLossy output
  if isBlank text then Text.Utf8.decodeLossy errors else text

/-- What the end of the compiler tells: the first line, without the blanks around it, unless
nothing is left of it. -/
def ofOutput (program : String) (status : ExitStatus) (output errors : Bytes) :
    Except ServiceFailure String :=
  let line := Text.trim ((Text.firstLine? (telling output errors).toList).getD [])
  if status.isSuccess && !line.isEmpty then .ok (String.ofList line)
  else .error (.version (program ++ " " ++ flag ++ " exited with " ++ status.message))

/-- The body of the response that tells the version. -/
def body (version : String) : String :=
  (Json.Value.object [("version", .text version)]).write

/-- How the compiler is started to be asked. -/
def command (program : String) (output errors : Nat) : Command :=
  { program := Text.Utf8.encode program,
    arguments := [Text.Utf8.encode flag],
    directory? := none,
    leads := false,
    output, errors }

end Version

namespace Tap

/-- A tap that nothing has been read from. -/
def ofOpenFile (openFile : Nat) : Tap :=
  { openFile, bytes := [], isDry := false }

/-- How much is read at once. -/
def readLimit : Nat := 65536

/-- Read what is there. Nothing can be read while there may be more to come, nor when all has
been read. -/
def draw? (tap : Tap) (machine : Machine) : Option (Tap × Machine) :=
  if tap.isDry then none
  else
    match machine.readOpen tap.openFile readLimit with
    | none => none
    | some (.ok (first :: rest), next) =>
      some ({ tap with bytes := tap.bytes ++ first :: rest }, next)
    | some (_, next) => some ({ tap with isDry := true }, next.release tap.openFile)

end Tap

namespace Inquiry

/-- Ask the compiler for its version. -/
def start (host : Host) (program : String) (machine : Machine) :
    Except IoError (Inquiry × Machine) :=
  let ((output, outputEnd), withOutput) := machine.openTap
  let ((errors, errorsEnd), withErrors) := withOutput.openTap
  match withErrors.spawn host (Version.command program outputEnd errorsEnd) with
  | .ok (process, next) => .ok (⟨process, .ofOpenFile output, .ofOpenFile errors⟩, next)
  | .error cause => .error cause

/-- Read more of what the compiler writes. -/
def listen? (inquiry : Inquiry) (machine : Machine) : Option (Inquiry × Machine) :=
  match inquiry.output.draw? machine with
  | some (output, next) => some ({ inquiry with output }, next)
  | none =>
    match inquiry.errors.draw? machine with
    | some (errors, next) => some ({ inquiry with errors }, next)
    | none => none

/-- How the compiler ended, once it has and all that it wrote has been read. -/
def ending? (inquiry : Inquiry) (machine : Machine) : Option ExitStatus :=
  if inquiry.output.isDry && inquiry.errors.isDry then machine.ending? inquiry.process else none

/-- What the compiler tells by its end. -/
def result (inquiry : Inquiry) (program : String) (status : ExitStatus) :
    Except ServiceFailure String :=
  Version.ofOutput program status inquiry.output.bytes inquiry.errors.bytes

/-- Listen no more. The compiler is left to itself. -/
def abandon (inquiry : Inquiry) (machine : Machine) : Machine :=
  (machine.release inquiry.output.openFile).release inquiry.errors.openFile

end Inquiry

end CompilePlayground
