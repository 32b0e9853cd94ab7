import CompilePlayground.Json.Writer
import CompilePlayground.Log
import CompilePlayground.Posix.SystemError

namespace CompilePlayground

/-!
# Failures

Three kinds of failure are told apart by their causes. A `CategoryFailure` is what
a page lacks, a `CompileFailure` is the step of a job that could not be done, and
a `ServiceFailure` is what a request is refused for. Each has its wording in one
place.
-/

/-- What a category page lacks. -/
inductive CategoryFailure where
  | missingRoot
  | noLinks
  deriving Repr, DecidableEq

/-- The words for what a page lacks. -/
def CategoryFailure.message : CategoryFailure → String
  | .missingRoot => "Could not find root node for the anime titles."
  | .noLinks => "No page links were found."

/-- The step of a job that could not be done. -/
inductive CompileFailure where
  | directory (cause : Posix.IoError)
  | source (cause : Posix.IoError)
  | launch (cause : Posix.IoError)
  | wait (cause : Posix.IoError)
  | output (cause : Posix.IoError)
  deriving Repr, DecidableEq

/-- The words for a step that could not be done. -/
def CompileFailure.message : CompileFailure → String
  | .directory cause => "Failed to create work directory: " ++ cause.message
  | .source cause => "Failed to write source file: " ++ cause.message
  | .launch cause => "Failed to spawn compilation process: " ++ cause.message
  | .wait cause => "Failed to wait for compilation process: " ++ cause.message
  | .output cause => "Failed to read compiler output: " ++ cause.message

/-- Why a request is refused. That a source does not compile is no failure of its
request. -/
inductive ServiceFailure where
  | queueClosed
  | workerDropped
  | category (failure : CategoryFailure)
  | version (message : String)
  deriving Repr, DecidableEq

namespace ServiceFailure

/-- The words for a refusal. -/
def message : ServiceFailure → String
  | .queueClosed => "Compile queue is closed"
  | .workerDropped => "Compile worker dropped the job"
  | .category failure => failure.message
  | .version message => "Failed to query compiler version: " ++ message

/-- The status of the response that refuses. -/
def status : ServiceFailure → Nat
  | .queueClosed => 503
  | .workerDropped => 500
  | .category _ => 422
  | .version _ => 500

/-- Whether the client is to blame. -/
def isClientFault : ServiceFailure → Bool
  | .category _ => true
  | _ => false

/-- The event that a refusal leaves in the log. -/
def event (failure : ServiceFailure) : LogEvent :=
  if failure.isClientFault then
    .plain .debug .failures ("Client error: " ++ failure.message)
  else
    .plain .error .failures ("Internal service error: " ++ failure.message)

/-- The body of the response that refuses. -/
def body (failure : ServiceFailure) : String :=
  (Json.Value.object [("error", .text failure.message)]).write

end ServiceFailure

end CompilePlayground
