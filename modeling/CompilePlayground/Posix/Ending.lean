import CompilePlayground.Posix.Program
import CompilePlayground.Posix.Signal

namespace CompilePlayground.Posix.ExitStatus

/-!
# The end of a process in words

A process that ended by itself has an exit status, one that a signal ended has a signal.
-/

/-- Whether a process ended by itself and without complaint. -/
def isSuccess (status : ExitStatus) : Bool :=
  status = .code 0

/-- How a process ended, such as `exit status: 1` or `signal: 9 (SIGKILL)`. -/
def message : ExitStatus → String
  | .code value => "exit status: " ++ toString value
  | .signal number =>
    let name := match Signal.endingName? number with
      | some name => " (SIG" ++ name ++ ")"
      | none => ""
    "signal: " ++ toString number ++ name

end CompilePlayground.Posix.ExitStatus
