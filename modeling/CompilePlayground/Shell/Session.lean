import CompilePlayground.Posix.Path
import CompilePlayground.Posix.Program
import CompilePlayground.Posix.Signal
import CompilePlayground.Shell.Command

namespace CompilePlayground.Shell

open Posix

/-!
# Sessions

A `Session` is what a shell remembers from one command to the next. A `Run` is a piece of what
a shell does: it may change the session, ask the system, and be left early by an `Escape`.
-/

/-- A variable of a shell. -/
structure Variable where
  value : Octets
  isExported : Bool
  isFixed : Bool
  deriving Repr, DecidableEq

/-- The switches of a shell. -/
structure Switches where
  stopOnFailure : Bool
  stopOnUnset : Bool
  trace : Bool
  keepPatterns : Bool
  deriving Repr, DecidableEq

/-- What a shell remembers. -/
structure Session where
  name : Octets
  arguments : List Octets
  bindings : List (Octets × Variable)
  functions : List (Octets × Command)
  status : Nat
  processId : Nat
  background? : Option Nat
  children : List Nat
  endings : List (Nat × ExitStatus)
  switches : Switches
  traps : List (Nat × Octets)
  line : Nat
  speaker? : Option Octets
  directory : Octets
  isTested : Bool
  loops : Nat
  isInFunction : Bool
  hidden : List (Octets × Option Variable)
  substitutionStatus? : Option Nat

/-- Why a piece of what a shell does is left early. -/
inductive Escape where
  | exit (code : Nat)
  | giveBack (code : Nat)
  | leave (loops : Nat)
  | again (loops : Nat)
  deriving Repr, DecidableEq

/-- A piece of what a shell does. -/
abbrev Run := ExceptT Escape (StateT Session Procedure)

namespace Run

/-- Ask the system. -/
def ask (request : Request) : Run request.Answer :=
  fun session next => Procedure.call request fun answer => next (.ok answer, session)

/-- Split off a process that does something else and ends with the code that this gives. -/
def splitOff (child : Run Nat) : Run Nat :=
  fun session next =>
    .split
      ((child session) fun (result, _) =>
        match result with
        | .ok code => .exit code
        | .error (.exit code) => .exit code
        | .error (.giveBack code) => .exit code
        | .error _ => .exit 0)
      fun id => next (.ok id, session)

/-- Go on even when a piece is left early, with how it was left. -/
def caught {α : Type} (run : Run α) : Run (Except Escape α) :=
  fun session next => run session fun (result, after) => next (.ok result, after)

/-- Leave early as it was found before, or go on. -/
def resume {α : Type} (result : Except Escape α) : Run α :=
  fun session next => next (result, session)

/-- Do something, and something else after it in any case. -/
def afterwards {α : Type} (run : Run α) (after : Run Unit) : Run α := do
  let result ← run.caught
  after
  resume result

end Run

namespace Session

/-- The value of a variable, if it has one. -/
def value? (session : Session) (name : Octets) : Option Octets :=
  (session.bindings.lookup name).map Variable.value

/-- Set a variable and leave its other properties as they are. -/
def assign (session : Session) (name value : Octets) : Session :=
  let old := session.bindings.lookup name
  let binding : Variable :=
    { value,
      isExported := (old.map Variable.isExported).getD false,
      isFixed := (old.map Variable.isFixed).getD false }
  { session with
    bindings := (name, binding) :: session.bindings.filter fun entry => entry.1 != name }

/-- Forget a variable. -/
def unset (session : Session) (name : Octets) : Session :=
  { session with bindings := session.bindings.filter fun entry => entry.1 != name }

/-- Let a variable belong to the function that is carried out. -/
def hide (session : Session) (name : Octets) : Session :=
  { session with hidden := (name, session.bindings.lookup name) :: session.hidden }

/-- Bring back the variables that belong to the function that has been carried out. -/
def reveal (session : Session) : Session :=
  session.hidden.foldl
    (fun current (name, before?) =>
      let bare := current.unset name
      match before? with
      | some before => { bare with bindings := (name, before) :: bare.bindings }
      | none => bare)
    session

/-- Pass a variable on to the programs that are run, with the value that it has. -/
def exportName (session : Session) (name : Octets) : Session :=
  match session.bindings.lookup name with
  | some found =>
    { session with
      bindings :=
        (name, { found with isExported := true })
          :: session.bindings.filter fun entry => entry.1 != name }
  | none => session

/-- Whether a variable may not be changed. -/
def isFixed (session : Session) (name : Octets) : Bool :=
  ((session.bindings.lookup name).map Variable.isFixed).getD false

/-- The variables that a program gets which is run. -/
def environment (session : Session) : List (Bytes × Bytes) :=
  session.bindings.reverse.filterMap fun (name, binding) =>
    if binding.isExported then
      some (Text.Octets.toBytes name, Text.Octets.toBytes binding.value)
    else none

/-- The function with a name. -/
def function? (session : Session) (name : Octets) : Option Command :=
  session.functions.lookup name

/-- The number of a count in the words of a shell. -/
def digits (count : Nat) : Octets :=
  (toString count).toList

/-- The letters of the switches that are on. -/
def switchLetters (session : Session) : Octets :=
  (if session.switches.stopOnFailure then ['e'] else [])
    ++ (if session.switches.keepPatterns then ['f'] else [])
    ++ (if session.switches.stopOnUnset then ['u'] else [])
    ++ if session.switches.trace then ['x'] else []

/-- The text of a parameter that has one text, if it is set. -/
def parameter? (session : Session) (name : Octets) : Option Octets :=
  match name with
  | ['#'] => some (digits session.arguments.length)
  | ['?'] => some (digits session.status)
  | ['$'] => some (digits session.processId)
  | ['!'] => session.background?.map digits
  | ['-'] => some session.switchLetters
  | ['0'] => some session.name
  | c :: _ =>
    if c.isDigit then
      session.arguments[(String.ofList name).toNat?.getD 0 - 1]?
    else
      session.value? name
  | [] => none

end Session

namespace Run

/-- The descriptor that messages are written to. -/
def errorDescriptor : Nat := 2

/-- The descriptor that output is written to. -/
def outputDescriptor : Nat := 1

/-- Write bytes to a descriptor. Whether that succeeded is the value. -/
def writeBytes (descriptor : Nat) (bytes : Bytes) : Run Bool := do
  if bytes.isEmpty then
    pure true
  else do
    let reply ← ask (.write descriptor bytes)
    match reply with
    | .ok _ => pure true
    | .error _ => pure false

/-- Write text to a descriptor. -/
def write (descriptor : Nat) (text : Octets) : Run Bool :=
  writeBytes descriptor (Text.Octets.toBytes text)

/-- Write a message that says who speaks and in which line. -/
def warn (text : Octets) : Run Unit := do
  let session ← get
  let speaker := match session.speaker? with
    | some speaker => speaker ++ ": ".toList
    | none => []
  discard <| write errorDescriptor
    (session.name ++ ": ".toList ++ Session.digits session.line ++ ": ".toList ++ speaker
      ++ text ++ ['\n'])

/-- Write a message and leave the shell. -/
def fail {α : Type} (text : Octets) : Run α := do
  warn text
  throw (.exit 2)

/-- Set a variable, unless it may not be changed. -/
def assign (name value : Octets) : Run Unit := do
  if (← get).isFixed name then
    fail (name ++ ": is read only".toList)
  else
    modify fun session => session.assign name value

/-- The text of an error of the system. -/
def describe (error : SystemError) : Octets :=
  error.description.toList

end Run

end CompilePlayground.Shell
