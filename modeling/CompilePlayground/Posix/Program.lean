import CompilePlayground.Posix.SystemError
import CompilePlayground.Text.Utf8

namespace CompilePlayground.Posix

/-!
# Programs as conversations with the system

A running program is seen through what it asks of the system and how it goes on with
each answer. `Request` lists what can be asked, `Request.Answer` gives the form of each
answer, and a `Program` is a tree of requests: it ends with an exit code, asks something,
or splits in two. A `Procedure` is a piece of a program that gives a value to what follows.
-/

/-- What the system answers: a value, or the error that stood in the way. -/
abbrev Reply (α : Type) := Except SystemError α

/-- What a name in a directory stands for. -/
inductive FileKind where
  | plain
  | directory
  | link
  | device
  | pipe
  deriving Repr, DecidableEq

/-- What can be learned about a file without opening it. -/
structure FileStatus where
  kind : FileKind
  identity : Nat
  size : Nat
  mode : Nat
  modified : Nat
  deriving Repr, DecidableEq

/-- What a file is opened for. -/
inductive OpenMode where
  | read
  | truncate
  | append
  | update
  deriving Repr, DecidableEq

/-- How a process ended. -/
inductive ExitStatus where
  | code (value : Nat)
  | signal (number : Nat)
  deriving Repr, DecidableEq

/-- What a process does with a signal. -/
inductive Disposition where
  | standard
  | ignore
  | record
  deriving Repr, DecidableEq

/-- What a program is started with: its arguments, its own name first, and its variables. -/
structure Invocation where
  arguments : List Bytes
  environment : List (Bytes × Bytes)
  deriving Repr, DecidableEq

/-- What a program may ask of the system. -/
inductive Request where
  | openFile (path : Bytes) (mode : OpenMode)
  | closeFile (descriptor : Nat)
  | duplicate (source target : Nat)
  | duplicateFrom (source least : Nat)
  | openPipe
  | read (descriptor limit : Nat)
  | write (descriptor : Nat) (bytes : Bytes)
  | status (path : Bytes) (follow : Bool)
  | openStatus (descriptor : Nat)
  | list (path : Bytes)
  | readLink (path : Bytes)
  | createDirectory (path : Bytes)
  | removeFile (path : Bytes)
  | removeDirectory (path : Bytes)
  | rename (source target : Bytes)
  | link (source target : Bytes)
  | symbolicLink (target path : Bytes)
  | changeMode (path : Bytes) (mode : Nat)
  | changeDirectory (path : Bytes)
  | workingDirectory
  | execute (path : Bytes) (invocation : Invocation)
  | waitChild (child? : Option Nat)
  | pollChild (child : Nat)
  | signal (target : Int) (number : Nat)
  | setDisposition (number : Nat) (disposition : Disposition)
  | disposition (number : Nat)
  | takeSignal
  | clock
  | sleepUntil (time : Nat)
  | processId
  | parentId
  deriving Repr, DecidableEq

/-- The form of the answer to a request. -/
@[reducible] def Request.Answer : Request → Type
  | .openFile .. => Reply Nat
  | .closeFile .. => Reply Unit
  | .duplicate .. => Reply Unit
  | .duplicateFrom .. => Reply Nat
  | .openPipe => Nat × Nat
  | .read .. => Reply Bytes
  | .write .. => Reply Unit
  | .status .. => Reply FileStatus
  | .openStatus .. => Reply FileStatus
  | .list .. => Reply (List Bytes)
  | .readLink .. => Reply Bytes
  | .createDirectory .. => Reply Unit
  | .removeFile .. => Reply Unit
  | .removeDirectory .. => Reply Unit
  | .rename .. => Reply Unit
  | .link .. => Reply Unit
  | .symbolicLink .. => Reply Unit
  | .changeMode .. => Reply Unit
  | .changeDirectory .. => Reply Unit
  | .workingDirectory => Reply Bytes
  | .execute .. => SystemError
  | .waitChild .. => Reply (Nat × ExitStatus)
  | .pollChild .. => Option ExitStatus
  | .signal .. => Reply Unit
  | .setDisposition .. => Unit
  | .disposition .. => Disposition
  | .takeSignal => Option Nat
  | .clock => Nat
  | .sleepUntil .. => Unit
  | .processId => Nat
  | .parentId => Nat

/-- A program as it is seen by the system. A program that splits goes on twice: the child as
one program, the parent as another that knows the number of the child. -/
inductive Program where
  | exit (code : Nat)
  | call (request : Request) (next : request.Answer → Program)
  | split (child : Program) (next : Nat → Program)

/-- A piece of a program: given what is to follow on its value, it is a program. -/
def Procedure (α : Type) : Type :=
  (α → Program) → Program

namespace Procedure

instance : Monad Procedure where
  pure value := fun next => next value
  bind procedure rest := fun next => procedure fun value => rest value next

/-- Ask the system. -/
def call (request : Request) : Procedure request.Answer :=
  fun next => .call request next

/-- Split off a child. Its number is the value for the parent. -/
def split (child : Program) : Procedure Nat :=
  fun next => .split child next

/-- End the program at once, whatever was to follow. -/
def exit {α : Type} (code : Nat) : Procedure α :=
  fun _ => .exit code

/-- The whole program of a procedure whose value is its exit code. -/
def program (procedure : Procedure Nat) : Program :=
  procedure .exit

/-- A value is given to what follows and asks nothing. -/
@[simp] theorem pure_apply
    {α : Type}
    (value : α)
    (next : α → Program) :
    (pure value : Procedure α) next = next value :=
  rfl

/-- Procedures in sequence. -/
@[simp] theorem bind_apply
    {α β : Type}
    (procedure : Procedure α)
    (rest : α → Procedure β)
    (next : β → Program) :
    (procedure >>= rest) next = procedure fun value => rest value next :=
  rfl

end Procedure

end CompilePlayground.Posix
