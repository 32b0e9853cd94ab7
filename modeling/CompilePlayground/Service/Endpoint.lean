import CompilePlayground.Category
import CompilePlayground.Http.FileKind
import CompilePlayground.Http.FileResponse
import CompilePlayground.Http.Rejection
import CompilePlayground.Message
import CompilePlayground.Posix.Spawn
import CompilePlayground.Text.Quoted

namespace CompilePlayground.Endpoint

open Http Posix

/-!
# Requests that are answered at once

Pages, links of a category and messages of the browser extension need nothing but the request
and the disk. Each is answered with a response and what is logged about it.
-/

/-- A response, and what is logged about it. -/
structure Answer where
  response : Response
  events : List LogEvent
  deriving Repr, DecidableEq

namespace Answer

/-- A response that nothing is logged about. -/
def silent (response : Response) : Answer :=
  ⟨response, []⟩

/-- The response of which only the status says something. -/
def bare (status : Nat) : Answer :=
  silent (.bare status)

/-- The answer to a request that is refused. -/
def failure (failure : ServiceFailure) : Answer :=
  ⟨.json failure.status failure.body, [failure.event]⟩

/-- The answer to a body that is not taken. -/
def rejection (rejection : Rejection) : Answer :=
  silent rejection.response

end Answer

/-- The answer where a path leads nowhere. -/
def unknownPath (request : Http.Request) : Answer :=
  ⟨.bare 404,
    [.plain .warn .handlers
      ("Don't know how to respond to the request to " ++ request.path)]⟩

/-- Whether a file that cannot be had is as good as none. -/
def isAbsence (error : SystemError) : Bool :=
  error = .notFound || error = .denied || error = .notDirectory

/-- The answer to who asks for a page that is kept in a file. -/
def page (host : Host) (machine : Machine) (name : Bytes) (request : Http.Request) : Answer :=
  match machine.disk.findFile (some host.directory) name with
  | .ok (_, file) =>
    let sent : SentFile := ⟨file.bytes, file.modified, FileKind.ofName name⟩
    .silent (sent.respond request)
  | .error error => .bare (if isAbsence error then 404 else 500)

/-- What is logged about a link of a category. -/
def linkEvent (link : LinkItem) : LogEvent :=
  { LogEvent.plain .info .handlers "category link" with title? := some link.title }

/-- The answer to who sends the page of a category. -/
def titles (request : Http.Request) : Answer :=
  match request.textBody with
  | .error rejection => .rejection rejection
  | .ok page =>
    match Category.read page with
    | .error failure => .failure (.category failure)
    | .ok links => ⟨.json 200 (LinkItem.writeList links), links.map linkEvent⟩

/-- The only action that the extension may ask for. -/
def logAction : String := "log"

/-- The words that are logged for an argument: a text as it is, all else in JSON. -/
def logged (argument : Json.Value) : String :=
  match argument with
  | .text words => words
  | other => other.write

/-- What the extension is answered. -/
def respondTo (request : ExtensionRequest) : ExtensionResponse × LogEvent :=
  if request.action = logAction then
    (⟨true, none⟩, .plain .info .extension (logged request.argument))
  else
    (⟨false, some ("Unknown action: " ++ request.action)⟩,
      .plain .debug .handlers
        ("Rejecting unknown extension action " ++ Text.quote request.action))

/-- The answer to a message of the extension. -/
def extension (request : Http.Request) : Answer :=
  match request.jsonBody ExtensionRequest.read with
  | .error rejection => .rejection rejection
  | .ok message =>
    let (response, event) := respondTo message
    ⟨.json 200 response.write, [event]⟩

end CompilePlayground.Endpoint
