import CompilePlayground.Http.MediaType
import CompilePlayground.Http.Message
import CompilePlayground.Json.Cursor

namespace CompilePlayground.Http

/-!
# Bodies that are not taken

A body that is to be read as a whole must not be too long, text has to be UTF-8, and JSON
has to be announced as such. What is not taken is answered with a `Rejection`.
-/

/-- Why a body is not taken. -/
inductive Rejection where
  | tooLong
  | notText (fault : Text.Utf8.Fault)
  | notAnnounced
  | malformed (fault : Json.Fault)
  | mismatched (fault : Json.Fault)
  deriving Repr

namespace Rejection

/-- The status of the response to a body that is not taken. -/
def status : Rejection → Nat
  | .tooLong => 413
  | .notText _ => 400
  | .notAnnounced => 415
  | .malformed _ => 400
  | .mismatched _ => 422

/-- The words for a body that is not taken. -/
def message : Rejection → String
  | .tooLong => "Failed to buffer the request body: length limit exceeded"
  | .notText fault => "Request body didn't contain valid UTF-8: " ++ fault.message
  | .notAnnounced =>
    let grave := String.singleton (Char.ofNat 96)
    "Expected request with " ++ grave ++ "Content-Type: application/json" ++ grave
  | .malformed fault =>
    "Failed to parse the request body as JSON: " ++ fault.messageWithPath
  | .mismatched fault =>
    "Failed to deserialize the JSON body into the target type: " ++ fault.messageWithPath

/-- The response to a body that is not taken. -/
def response (rejection : Rejection) : Response :=
  .plain rejection.status rejection.message

/-- The rejection of a body in which a fault was found. -/
def ofFault (fault : Json.Fault) : Rejection :=
  match fault.cause.kind with
  | .shape => .mismatched fault
  | _ => .malformed fault

/-- A body is not taken for one of few statuses. -/
theorem status_mem (rejection : Rejection) :
    rejection.status ∈ [400, 413, 415, 422] := by
  cases rejection <;> simp [status]

end Rejection

namespace Request

/-- The length that a body has at most. -/
def bodyLimit : Nat := 2097152

/-- The body, unless it is too long. -/
def wholeBody (request : Request) : Except Rejection Bytes :=
  if request.body.length ≤ bodyLimit then .ok request.body else .error .tooLong

/-- The body as text. -/
def textBody (request : Request) : Except Rejection String := do
  let bytes ← request.wholeBody
  match Text.Utf8.decode? bytes with
  | .ok text => return text
  | .error fault => throw (.notText fault)

/-- Whether the body is announced as JSON. -/
def announcesJson (request : Request) : Bool :=
  ((request.text? "content-type").bind MediaType.read?).any MediaType.isJson

/-- The value that a body holds in JSON. -/
def jsonBody {α : Type} (request : Request) (read : Bytes → Except Json.Fault α) :
    Except Rejection α := do
  if !request.announcesJson then throw .notAnnounced
  let bytes ← request.wholeBody
  match read bytes with
  | .ok value => return value
  | .error fault => throw (.ofFault fault)

end Request

end CompilePlayground.Http
