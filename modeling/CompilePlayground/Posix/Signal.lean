import CompilePlayground.Text.Utf8

namespace CompilePlayground.Posix.Signal

/-!
# Signals

Signals have numbers and names. Without a process having said otherwise most of them end
it, some stop it, and some do nothing.
-/

/-- What a signal does to a process that has not said otherwise. -/
inductive Effect where
  | terminate
  | stop
  | resume
  | nothing
  deriving Repr, DecidableEq

/-- The names of the signals in the order of their numbers from 1 on. -/
def names : List String :=
  ["HUP", "INT", "QUIT", "ILL", "TRAP", "ABRT", "BUS", "FPE", "KILL", "USR1", "SEGV", "USR2",
    "PIPE", "ALRM", "TERM", "STKFLT", "CHLD", "CONT", "STOP", "TSTP", "TTIN", "TTOU", "URG",
    "XCPU", "XFSZ", "VTALRM", "PROF", "WINCH", "POLL", "PWR", "SYS"]

/-- What is said of a process that a signal ended, in the order of the numbers from 1 on. -/
def descriptions : List String :=
  ["Hangup", "Interrupt", "Quit", "Illegal instruction", "Trace/breakpoint trap", "Aborted",
    "Bus error", "Floating point exception", "Killed", "User defined signal 1",
    "Segmentation fault", "User defined signal 2", "Broken pipe", "Alarm clock", "Terminated",
    "Stack fault", "Child exited", "Continued", "Stopped (signal)", "Stopped",
    "Stopped (tty input)", "Stopped (tty output)", "Urgent I/O condition",
    "CPU time limit exceeded", "File size limit exceeded", "Virtual timer expired",
    "Profiling timer expired", "Window changed", "I/O possible", "Power failure",
    "Bad system call"]

/-- The signal that a closed pipe sends to who writes. -/
def pipe : Nat := 13

/-- The signal that ends a process without asking. -/
def kill : Nat := 9

/-- The signal that asks a process to end. -/
def terminate : Nat := 15

/-- The signal that stops a process without asking. -/
def stop : Nat := 19

/-- The greatest number that a signal has. -/
def greatest : Nat := 64

/-- The name of a signal. -/
def name? (number : Nat) : Option String :=
  if number = 0 then none else names[number - 1]?

/-- What is said of a process that a signal ended. -/
def description (number : Nat) : String :=
  match (if number = 0 then none else descriptions[number - 1]?) with
  | some text => text
  | none => "Signal " ++ toString number

/-- The name by which the end of a process is told from that of others. A signal that has two
names is told by the one for input and output. -/
def endingName? (number : Nat) : Option String :=
  if number = 29 then some "IO" else name? number

/-- The number of the signal with a name. -/
def ofName? (name : String) : Option Nat :=
  (names.findIdx? (· == name)).map (· + 1)

/-- What a signal does to a process that has not said otherwise. -/
def effect (number : Nat) : Effect :=
  if number = 17 || number = 23 || number = 28 then .nothing
  else if number = 18 then .resume
  else if number = 19 || number = 20 || number = 21 || number = 22 then .stop
  else .terminate

/-- Whether a process may say what a signal does to it. -/
def isBindable (number : Nat) : Bool :=
  number != kill && number != stop

end CompilePlayground.Posix.Signal
